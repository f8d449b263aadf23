import Pagewalk.Proofs.Script.Doubles
import Pagewalk.Proofs.Script.Timers

/-!
# Timers with exact times

The timers of a realm have doubles for times, while histories have been looked at with natural numbers. As long as no
timer is due at 2 ^ 53 or later, doubles hold the times exactly: each deed does the same to both (`Sound.after_map`),
and so does a whole history (`history_doubles`). So what holds of the times of all histories holds of doubles too.
-/

namespace Pagewalk.Script

open Number

variable {τ α : Type}

/-- A timer with its times as other numbers. -/
def Timer.map (f : Nat → τ) (m : Timer Nat α) : Timer τ α := ⟨m.id, f m.due, m.turn, m.task, m.interval.map f⟩

namespace Timers

/-- Timers with their times as other numbers. -/
def map (f : Nat → τ) (t : Timers Nat α) : Timers τ α :=
  ⟨f t.now, t.nextId, t.nextTurn, t.pending.map (Timer.map f)⟩

/-- A deed with its time as another number. -/
def Deed.map (f : Nat → τ) : Deed Nat α → Deed τ α
  | .schedule task wait repeats => .schedule task (f wait) repeats
  | .cancel id => .cancel id
  | .fire => .fire

/-- Natural numbers below a bound are held exactly: they have their sums and their order. -/
structure Exact [LT τ] [BEq τ] [Add τ] (f : Nat → τ) (bound : Nat) : Prop where
  add : ∀ {a b : Nat}, a + b < bound → f a + f b = f (a + b)
  lt : ∀ {a b : Nat}, a < bound → b < bound → (f a < f b ↔ a < b)
  beq : ∀ {a b : Nat}, a < bound → b < bound → (f a == f b) = (a == b)

theorem exact_toFloat : Exact Nat.toFloat (2 ^ 53) := ⟨toFloat_add, toFloat_lt_iff, toFloat_beq⟩

/-- All timers that are set are due before some time. -/
def Below (bound : Nat) (t : Timers Nat α) : Prop := ∀ m ∈ t.pending, m.due < bound

theorem filter_map (f : Nat → τ) (ms : List (Timer Nat α)) (id : Nat) :
    (ms.map (Timer.map f)).filter (fun m => m.id != id) = (ms.filter fun m => m.id != id).map (Timer.map f) := by
  rw [List.filter_map]
  rfl

variable [LT τ] [DecidableLT τ] [BEq τ] [Add τ] {f : Nat → τ} {bound : Nat} {t : Timers Nat α} {d : Deed Nat α}
  {ds : List (Deed Nat α)} {m m' : Timer Nat α} {ms : List (Timer Nat α)}

/-! ### One deed -/

theorem Exact.isBefore_map (E : Exact f bound) (h : m.due < bound) (h' : m'.due < bound) :
    isBefore (m.map f) (m'.map f) = isBefore m m' := by
  have less : decide (f m.due < f m'.due) = decide (m.due < m'.due) := decide_eq_decide.mpr (E.lt h h')
  have same : (f m.due == f m'.due) = (m.due == m'.due) := E.beq h h'
  change (decide (f m.due < f m'.due) || (f m.due == f m'.due && decide (m.turn < m'.turn))) = _
  rw [less, same]
  rfl

theorem Exact.earliest_map (E : Exact f bound) (below : ∀ m ∈ ms, m.due < bound) :
    earliest? (ms.map (Timer.map f)) = (earliest? ms).map (Timer.map f) := by
  have picks (xs : List (Timer Nat α)) (best : Timer Nat α) (below : ∀ m ∈ best :: xs, m.due < bound) :
      (xs.map (Timer.map f)).foldl (fun best x => if isBefore x best then x else best) (best.map f) =
        (xs.foldl (fun best x => if isBefore x best then x else best) best).map f := by
    induction xs generalizing best with
    | nil => rfl
    | cons x xs ih =>
      obtain ⟨first, rest⟩ := List.forall_mem_cons.mp below
      obtain ⟨second, rest⟩ := List.forall_mem_cons.mp rest
      rw [List.map_cons, List.foldl_cons, List.foldl_cons, E.isBefore_map second first]
      split
      · exact ih x (List.forall_mem_cons.mpr ⟨second, rest⟩)
      · exact ih best (List.forall_mem_cons.mpr ⟨first, rest⟩)
  cases ms with
  | nil => rfl
  | cons m ms => exact congrArg some (picks ms m below)

/-- A deed does the same to times that are held exactly. -/
theorem Sound.after_map (S : t.Sound) (E : Exact f bound) (before : t.Below bound) (later : (t.after d).Below bound) :
    (t.map f).after (d.map f) = (t.after d).map f := by
  cases d with
  | schedule task wait repeats =>
    have due : t.now + wait < bound := later _ (mem_schedule.mpr (.inr rfl))
    have new : Timer.map f ⟨t.nextId, t.now + wait, t.nextTurn, task, if repeats then some wait else none⟩ =
        ⟨t.nextId, f t.now + f wait, t.nextTurn, task, if repeats then some (f wait) else none⟩ := by
      rw [E.add due]
      cases repeats <;> rfl
    simp only [Deed.map, Timers.after, schedule, map, List.map_append, List.map_singleton, new]
  | cancel id => simp only [Deed.map, Timers.after, cancel, map, filter_map]
  | fire =>
    have earliest : earliest? (t.map f).pending = (earliest? t.pending).map (Timer.map f) := E.earliest_map before
    cases h : earliest? t.pending with
    | none =>
      rw [h] at earliest
      rw [Deed.map, after_fire_none earliest, after_fire_none h]
    | some m =>
      rw [h] at earliest
      -- The clock is held exactly because nothing is overdue.
      have notOver := S.clock m (mem_of_earliest h)
      have due := before m (mem_of_earliest h)
      have now : (if f t.now < f m.due then f m.due else f t.now) = f (if t.now < m.due then m.due else t.now) := by
        simp only [E.lt (Nat.lt_of_le_of_lt notOver due) due, apply_ite f]
      rw [Deed.map, after_fire earliest, after_fire h]
      have rest : (t.map f).pending.filter (fun x => x.id != (m.map f).id) =
          (t.pending.filter fun x => x.id != m.id).map (Timer.map f) := filter_map f t.pending m.id
      cases interval : m.interval with
      | none =>
        have once : (m.map f).interval = none := congrArg (Option.map f) interval
        simp only [once]
        exact (Timers.mk.injEq ..).mpr ⟨now, rfl, rfl, rest⟩
      | some wait =>
        have again := later _ ((mem_fire h).mpr (.inr ⟨wait, interval, rfl⟩))
        have repeats : (m.map f).interval = some (f wait) := congrArg (Option.map f) interval
        have next : Timer.map f ⟨m.id, (if t.now < m.due then m.due else t.now) + wait, t.nextTurn, m.task, some wait⟩ =
            ⟨m.id, (if f t.now < f m.due then f m.due else f t.now) + f wait, t.nextTurn, m.task, some (f wait)⟩ := by
          rw [now, E.add again]
          rfl
        simp only [repeats]
        refine (Timers.mk.injEq ..).mpr ⟨now, rfl, rfl, ?_⟩
        rw [rest, List.map_append, List.map_singleton, next]
        rfl

/-! ### A history -/

/-- A history does the same to times that are held exactly, as long as all timers are due before the bound. -/
theorem Sound.history_map (S : t.Sound) (E : Exact f bound) (ds : List (Deed Nat α))
    (below : ∀ done, done <+: ds → (t.afterAll done).Below bound) :
    (t.map f).afterAll (ds.map (Deed.map f)) = (t.afterAll ds).map f ∧
      (t.map f).fired (ds.map (Deed.map f)) = (t.fired ds).map (Timer.map f) := by
  induction ds generalizing t with
  | nil => exact ⟨rfl, rfl⟩
  | cons d ds ih =>
    have now : t.Below bound := below [] List.nil_prefix
    have next : (t.after d).Below bound := below [d] (List.prefix_append [d] ds)
    have step := S.after_map E now next
    obtain ⟨all, fired⟩ := ih (S.after d) fun done h => below (d :: done) (List.cons_prefix_cons.mpr ⟨rfl, h⟩)
    have fires : fires? (t.map f) (d.map f) = (fires? t d).map (Timer.map f) := by
      cases d with
      | fire => exact E.earliest_map now
      | schedule task wait repeats => rfl
      | cancel id => rfl
    rw [List.map_cons]
    constructor
    · change ((t.map f).after (d.map f)).afterAll _ = _
      rw [step]
      exact all
    · rw [fired_cons, fired_cons, fires, step, fired, List.map_append]
      cases fires? t d <;> rfl

/-- Timers with doubles for times go through a history as those with natural numbers do, as long as no timer is due at
2 ^ 53 or later. -/
theorem history_doubles (ds : List (Deed Nat α))
    (below : ∀ done, done <+: ds → ((start 0).afterAll done).Below (2 ^ 53)) :
    (start 0.0).afterAll (ds.map (Deed.map Nat.toFloat)) = ((start 0).afterAll ds).map Nat.toFloat ∧
      (start 0.0).fired (ds.map (Deed.map Nat.toFloat)) = ((start 0).fired ds).map (Timer.map Nat.toFloat) := by
  have zero : Nat.toFloat 0 = 0.0 := by decide +kernel
  have held := sound_start.history_map exact_toFloat ds below
  rwa [show map Nat.toFloat (start 0 : Timers Nat α) = start 0.0 from congrArg start zero] at held

end Timers

end Pagewalk.Script
