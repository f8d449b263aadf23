import Mathlib.Data.Prod.Lex
import Mathlib.Order.Lattice.Nat
import Mathlib.Tactic.Common
import Pagewalk.Script.Timer

/-!
# Histories of timers

A history is a list of deeds: timers are set, taken back and fired in any order, as scripts and the tasks of timers
come to it. What is proved of all histories rests on an invariant of the timers (`Sound`), and for a single number on
what is pending under it. Where times matter they are natural numbers, so that sums are exact.
-/

namespace Pagewalk.Script

/-- When a timer is due, and its turn among those due then. -/
def Timer.key {α : Type} (m : Timer Nat α) : Nat ×ₗ Nat := toLex (m.due, m.turn)

namespace Timers

variable {τ α β : Type}

section Deeds

variable [LT τ] [DecidableLT τ] [BEq τ] [Add τ] {t : Timers τ α} {m m' : Timer τ α}

/-- The timers after some deeds. -/
def afterAll (t : Timers τ α) (ds : List (Deed τ α)) : Timers τ α := ds.foldl after t

/-- What comes of the deeds of a history, each done to the timers as they are then. -/
def along (f : Timers τ α → Deed τ α → Option β) (t : Timers τ α) : List (Deed τ α) → List β
  | [] => []
  | d :: ds => (f t d).toList ++ along f (t.after d) ds

/-- The timer that a deed fires, as it was set. -/
def fires? (t : Timers τ α) : Deed τ α → Option (Timer τ α)
  | .fire => earliest? t.pending
  | .schedule .. => none
  | .cancel _ => none

/-- The number that a deed gives to a timer. -/
def gives? (t : Timers τ α) : Deed τ α → Option Nat
  | .schedule task wait repeats => some (t.schedule task wait repeats).1
  | .cancel _ => none
  | .fire => none

/-- The timers that fire, in order. -/
def fired (t : Timers τ α) (ds : List (Deed τ α)) : List (Timer τ α) := along fires? t ds

/-- The numbers that timers get, in order. -/
def given (t : Timers τ α) (ds : List (Deed τ α)) : List Nat := along gives? t ds

theorem fired_cons (t : Timers τ α) (d : Deed τ α) (ds : List (Deed τ α)) :
    t.fired (d :: ds) = (t.fires? d).toList ++ (t.after d).fired ds := rfl

theorem along_append (f : Timers τ α → Deed τ α → Option β) (t : Timers τ α) (ds es : List (Deed τ α)) :
    along f t (ds ++ es) = along f t ds ++ along f (t.afterAll ds) es := by
  induction ds generalizing t with
  | nil => rfl
  | cons d ds ih => rw [List.cons_append, along, along, ih, List.append_assoc]; rfl

theorem fired_append (t : Timers τ α) (ds es : List (Deed τ α)) :
    t.fired (ds ++ es) = t.fired ds ++ (t.afterAll ds).fired es := along_append fires? t ds es

/-- The task that runs is that of the timer that fires. -/
theorem fire_task (t : Timers τ α) : t.fire?.map Prod.fst = (t.fires? .fire).map Timer.task := by
  rw [fire?, fires?]
  cases earliest? t.pending <;> rfl

theorem fire_eq_none_iff : t.fire? = none ↔ t.pending = [] := by
  rw [fire?]
  cases t.pending <;> simp [earliest?]

theorem length_fired_pos (ds : List (Deed τ α)) (h : t.pending ≠ []) : 0 < (t.fired (.fire :: ds)).length := by
  obtain ⟨m, ms, set⟩ := List.exists_cons_of_ne_nil h
  rw [fired_cons, fires?, set]
  exact Nat.zero_lt_succ _

/-! ### What a deed does -/

theorem mem_schedule {task : α} {wait : τ} {repeats : Bool} :
    m' ∈ (t.after (.schedule task wait repeats)).pending ↔
      m' ∈ t.pending ∨ m' = ⟨t.nextId, t.now + wait, t.nextTurn, task, if repeats then some wait else none⟩ := by
  change m' ∈ t.pending ++ [_] ↔ _
  rw [List.mem_append, List.mem_singleton]

theorem mem_cancel {id : Nat} : m' ∈ (t.after (.cancel id)).pending ↔ m' ∈ t.pending ∧ m'.id ≠ id := by
  change m' ∈ t.pending.filter _ ↔ _
  rw [List.mem_filter, bne_iff_ne]

/-- The timers after one of them fired. -/
theorem after_fire (h : earliest? t.pending = some m) :
    t.after .fire =
      let now := if t.now < m.due then m.due else t.now
      let rest := t.pending.filter fun x => x.id != m.id
      match m.interval with
      | none => { t with now := now, pending := rest }
      | some wait =>
        { t with
          now := now
          nextTurn := t.nextTurn + 1
          pending := rest ++ [{ m with due := now + wait, turn := t.nextTurn }] } := by
  rw [after, fire?, h]
  rfl

theorem after_fire_none (h : earliest? t.pending = none) : t.after .fire = t := by
  rw [after, fire?, h]
  rfl

theorem mem_fire (h : earliest? t.pending = some m) :
    m' ∈ (t.after .fire).pending ↔ m' ∈ t.pending ∧ m'.id ≠ m.id ∨
      ∃ wait, m.interval = some wait ∧
        m' = { m with due := (if t.now < m.due then m.due else t.now) + wait, turn := t.nextTurn } := by
  rw [after_fire h]
  cases m.interval <;> simp

theorem now_fire (h : earliest? t.pending = some m) :
    (t.after .fire).now = if t.now < m.due then m.due else t.now := by
  rw [after_fire h]
  cases m.interval <;> rfl

theorem nextId_le_after (t : Timers τ α) (d : Deed τ α) : t.nextId ≤ (t.after d).nextId := by
  match d with
  | .schedule .. => exact Nat.le_succ _
  | .cancel _ => exact Nat.le_refl _
  | .fire =>
    cases h : earliest? t.pending with
    | none => rw [after_fire_none h]
    | some m =>
      rw [after_fire h]
      cases m.interval <;> exact Nat.le_refl _

theorem nextTurn_le_after (t : Timers τ α) (d : Deed τ α) : t.nextTurn ≤ (t.after d).nextTurn := by
  match d with
  | .schedule .. => exact Nat.le_succ _
  | .cancel _ => exact Nat.le_refl _
  | .fire =>
    cases h : earliest? t.pending with
    | none => rw [after_fire_none h]
    | some m =>
      rw [after_fire h]
      cases m.interval
      · exact Nat.le_refl _
      · exact Nat.le_succ _

end Deeds

/-! ### Numbers -/

section Numbers

variable {m m' : Timer τ α} {id : Nat} {repeats : Bool} {ms : List (Timer τ α)}

/-- All timers that are pending have numbers that were given. -/
def Numbered (t : Timers τ α) : Prop := ∀ m ∈ t.pending, m.id < t.nextId

/-- A number was given, and what is pending under it repeats or does not. -/
structure Known (id : Nat) (repeats : Bool) (t : Timers τ α) : Prop where
  given : id < t.nextId
  kind : ∀ m ∈ t.pending, m.id = id → m.interval.isSome = repeats

/-- A number was given, and nothing is pending under it. -/
structure Gone (id : Nat) (t : Timers τ α) : Prop where
  given : id < t.nextId
  absent : ∀ m ∈ t.pending, m.id ≠ id

theorem numbered_start (now : τ) : (start now : Timers τ α).Numbered := fun _ hm => nomatch hm

variable [LT τ] [DecidableLT τ] [BEq τ] {t : Timers τ α} {d : Deed τ α} {ds : List (Deed τ α)}

/-- The earliest timer is one of them. -/
theorem mem_of_earliest (h : earliest? ms = some m) : m ∈ ms := by
  have picks (xs : List (Timer τ α)) (best : Timer τ α) :
      xs.foldl (fun best x => if isBefore x best then x else best) best ∈ best :: xs := by
    induction xs generalizing best with
    | nil => exact .head _
    | cons y ys ih =>
      rw [List.foldl_cons]
      split
      · exact .tail _ (ih y)
      · exact (List.mem_cons.mp (ih best)).elim (fun eq => eq.symm ▸ .head _) fun later => .tail _ (.tail _ later)
  match ms, h with
  | x :: xs, h => exact Option.some.inj h ▸ picks xs x

theorem earliest_of_fires (h : t.fires? d = some m) : d = .fire ∧ earliest? t.pending = some m := by
  match d, h with
  | .fire, h => exact ⟨rfl, h⟩

theorem mem_of_fires (h : t.fires? d = some m) : m ∈ t.pending := mem_of_earliest (earliest_of_fires h).2

variable [Add τ]

theorem nextId_le_afterAll (t : Timers τ α) (ds : List (Deed τ α)) : t.nextId ≤ (t.afterAll ds).nextId := by
  induction ds generalizing t with
  | nil => exact Nat.le_refl _
  | cons d ds ih => exact Nat.le_trans (nextId_le_after t d) (ih _)

/-- What is pending after a deed was pending under its number before and was not taken back, or has been set. -/
theorem mem_after (h : m' ∈ (t.after d).pending) :
    (∃ m ∈ t.pending, m'.id = m.id ∧ m'.interval = m.interval ∧ d ≠ .cancel m.id) ∨
      ∃ task wait repeats, d = .schedule task wait repeats ∧ m'.id = t.nextId ∧ m'.interval.isSome = repeats := by
  match d, h with
  | .schedule task wait repeats, h =>
    rcases mem_schedule.mp h with h | rfl
    · exact .inl ⟨m', h, rfl, rfl, nofun⟩
    · exact .inr ⟨task, wait, repeats, rfl, rfl, by cases repeats <;> rfl⟩
  | .cancel id, h =>
    obtain ⟨h, other⟩ := mem_cancel.mp h
    exact .inl ⟨m', h, rfl, rfl, fun eq => other (Deed.cancel.inj eq).symm⟩
  | .fire, h =>
    cases e : earliest? t.pending with
    | none => exact .inl ⟨m', after_fire_none e ▸ h, rfl, rfl, nofun⟩
    | some m =>
      rcases (mem_fire e).mp h with ⟨h, -⟩ | ⟨wait, -, rfl⟩
      · exact .inl ⟨m', h, rfl, rfl, nofun⟩
      · exact .inl ⟨m, mem_of_earliest e, rfl, rfl, nofun⟩

theorem mem_fired_cons : m ∈ t.fired (d :: ds) ↔ t.fires? d = some m ∨ m ∈ (t.after d).fired ds := by
  rw [fired_cons, List.mem_append, Option.mem_toList]

theorem Numbered.after (N : t.Numbered) (d : Deed τ α) : (t.after d).Numbered := by
  intro m' hm'
  rcases mem_after hm' with ⟨m, hm, id, -, -⟩ | ⟨_, _, _, rfl, id, -⟩
  · exact id ▸ Nat.lt_of_lt_of_le (N m hm) (nextId_le_after t d)
  · exact id ▸ Nat.lt_succ_self _

theorem Numbered.afterAll (N : t.Numbered) (ds : List (Deed τ α)) : (t.afterAll ds).Numbered := by
  induction ds generalizing t with
  | nil => exact N
  | cons d ds ih => exact ih (N.after d)

theorem Numbered.lt_of_mem_fired (N : t.Numbered) (h : m ∈ t.fired ds) : m.id < (t.afterAll ds).nextId := by
  induction ds generalizing t with
  | nil => cases h
  | cons d ds ih =>
    rcases mem_fired_cons.mp h with h | h
    · exact Nat.lt_of_lt_of_le (N m (mem_of_fires h)) (nextId_le_afterAll t (d :: ds))
    · exact ih (N.after d) h

theorem eq_of_gives (h : t.gives? d = some id) : id = t.nextId ∧ (t.after d).nextId = id + 1 := by
  match d, h with
  | .schedule .., h =>
    cases h
    exact ⟨rfl, rfl⟩

theorem mem_given_cons : id ∈ t.given (d :: ds) ↔ t.gives? d = some id ∨ id ∈ (t.after d).given ds := by
  rw [given, along, List.mem_append, Option.mem_toList, given]

theorem bounds_of_mem_given (h : id ∈ t.given ds) : t.nextId ≤ id ∧ id < (t.afterAll ds).nextId := by
  induction ds generalizing t with
  | nil => cases h
  | cons d ds ih =>
    rcases mem_given_cons.mp h with h | h
    · obtain ⟨eq, next⟩ := eq_of_gives h
      refine ⟨Nat.le_of_eq eq.symm, Nat.lt_of_succ_le (Nat.le_trans ?_ (nextId_le_afterAll (t.after d) ds))⟩
      exact Nat.le_of_eq next.symm
    · exact (ih h).imp_left (Nat.le_trans (nextId_le_after t d))

/-- Numbers are given in rising order. -/
theorem given_pairwise (t : Timers τ α) (ds : List (Deed τ α)) : (t.given ds).Pairwise (· < ·) := by
  induction ds generalizing t with
  | nil => exact .nil
  | cons d ds ih =>
    refine List.pairwise_append.mpr ⟨by cases t.gives? d <;> simp, ih _, fun id hid later hlater => ?_⟩
    obtain ⟨-, next⟩ := eq_of_gives (Option.mem_toList.mp hid)
    exact Nat.lt_of_succ_le (Nat.le_trans (Nat.le_of_eq next.symm) (bounds_of_mem_given hlater).1)

/-! ### What is pending under a number -/

theorem known_schedule (N : t.Numbered) (task : α) (wait : τ) (repeats : Bool) :
    Known t.nextId repeats (t.after (.schedule task wait repeats)) := by
  refine ⟨Nat.lt_succ_self _, fun m' hm' id => ?_⟩
  rcases mem_after hm' with ⟨m, hm, same, -, -⟩ | ⟨_, _, _, eq, -, kind⟩
  · exact absurd (same.symm.trans id) (Nat.ne_of_lt (N m hm))
  · cases eq
    exact kind

theorem Known.after (K : Known id repeats t) (d : Deed τ α) : Known id repeats (t.after d) := by
  refine ⟨Nat.lt_of_lt_of_le K.given (nextId_le_after t d), fun m' hm' eq => ?_⟩
  rcases mem_after hm' with ⟨m, hm, same, interval, -⟩ | ⟨_, _, _, -, next, -⟩
  · rw [interval]
    exact K.kind m hm (same.symm.trans eq)
  · exact absurd (eq.symm.trans next) (Nat.ne_of_lt K.given)

theorem gone_cancel (h : id < t.nextId) : Gone id (t.after (.cancel id)) :=
  ⟨h, fun _ hm => (mem_cancel.mp hm).2⟩

theorem Gone.after (G : Gone id t) (d : Deed τ α) : Gone id (t.after d) := by
  refine ⟨Nat.lt_of_lt_of_le G.given (nextId_le_after t d), fun m' hm' eq => ?_⟩
  rcases mem_after hm' with ⟨m, hm, same, -, -⟩ | ⟨_, _, _, -, next, -⟩
  · exact G.absent m hm (same.symm.trans eq)
  · exact absurd (eq.symm.trans next) (Nat.ne_of_lt G.given)

/-- What is gone never fires. -/
theorem Gone.ne_of_mem_fired (G : Gone id t) (h : m ∈ t.fired ds) : m.id ≠ id := by
  induction ds generalizing t with
  | nil => cases h
  | cons d ds ih =>
    rcases mem_fired_cons.mp h with h | h
    · exact G.absent m (mem_of_fires h)
    · exact ih (G.after d) h

/-- What fires without repeating is gone. -/
theorem Known.gone_of_fires (K : Known id false t) (h : t.fires? d = some m) (eq : m.id = id) :
    Gone id (t.after d) := by
  obtain ⟨rfl, e⟩ := earliest_of_fires h
  refine ⟨Nat.lt_of_lt_of_le K.given (nextId_le_after t _), fun m' hm' => ?_⟩
  rcases (mem_fire e).mp hm' with ⟨-, other⟩ | ⟨wait, interval, -⟩
  · exact eq ▸ other
  · have := K.kind m (mem_of_fires h) eq
    rw [interval] at this
    cases this

/-- What does not repeat fires once at most. -/
theorem Known.countP_fired_le_one (K : Known id false t) (ds : List (Deed τ α)) :
    (t.fired ds).countP (·.id == id) ≤ 1 := by
  induction ds generalizing t with
  | nil => exact Nat.zero_le _
  | cons d ds ih =>
    rw [fired_cons, List.countP_append]
    cases h : t.fires? d with
    | none =>
      rw [Option.toList_none, List.countP_nil, Nat.zero_add]
      exact ih (K.after d)
    | some m =>
      rw [Option.toList_some, List.countP_singleton]
      by_cases eq : m.id = id
      · have later : ((t.after d).fired ds).countP (·.id == id) = 0 := by
          rw [List.countP_eq_zero]
          intro m' hm'
          exact mt eq_of_beq ((K.gone_of_fires h eq).ne_of_mem_fired hm')
        rw [later]
        split <;> decide
      · rw [if_neg (mt eq_of_beq eq), Nat.zero_add]
        exact ih (K.after d)

/-- What is pending stays so unless it is taken back, or fires without repeating. -/
theorem Known.pending_or_fired (K : Known id repeats t) (h : ∃ m ∈ t.pending, m.id = id)
    (kept : .cancel id ∉ ds) :
    (∃ m ∈ (t.afterAll ds).pending, m.id = id) ∨ repeats = false ∧ ∃ m ∈ t.fired ds, m.id = id := by
  induction ds generalizing t with
  | nil => exact .inl h
  | cons d ds ih =>
    obtain ⟨notNow, notLater⟩ := not_or.mp (mt List.mem_cons.mpr kept)
    have go (h : ∃ m ∈ (t.after d).pending, m.id = id) :
        (∃ m ∈ (t.afterAll (d :: ds)).pending, m.id = id) ∨
          repeats = false ∧ ∃ m ∈ t.fired (d :: ds), m.id = id := by
      refine (ih (K.after d) h notLater).imp_right (And.imp_right ?_)
      rintro ⟨m, hm, eq⟩
      exact ⟨m, mem_fired_cons.mpr (.inr hm), eq⟩
    obtain ⟨m, hm, eq⟩ := h
    match d with
    | .schedule .. => exact go ⟨m, mem_schedule.mpr (.inl hm), eq⟩
    | .cancel other =>
      refine go ⟨m, mem_cancel.mpr ⟨hm, fun same => notNow ?_⟩, eq⟩
      rw [← eq, same]
    | .fire =>
      cases e : earliest? t.pending with
      | none => exact go ⟨m, (after_fire_none e).symm ▸ hm, eq⟩
      | some x =>
        by_cases same : m.id = x.id
        · cases hi : x.interval with
          | none =>
            have kind := K.kind x (mem_of_earliest e) (same.symm.trans eq)
            rw [hi] at kind
            exact .inr ⟨kind.symm, x, mem_fired_cons.mpr (.inl e), same.symm.trans eq⟩
          | some wait => exact go ⟨_, (mem_fire e).mpr (.inr ⟨wait, hi, rfl⟩), same.symm.trans eq⟩
        · exact go ⟨m, (mem_fire e).mpr (.inl ⟨hm, same⟩), eq⟩

end Numbers

/-! ### The clock -/

section Clock

variable {t : Timers Nat α} {m m' x : Timer Nat α} {d : Deed Nat α} {ds : List (Deed Nat α)} {ms : List (Timer Nat α)}

theorem key_lt_key : m.key < m'.key ↔ m.due < m'.due ∨ m.due = m'.due ∧ m.turn < m'.turn := Prod.Lex.toLex_lt_toLex

theorem isBefore_eq (m m' : Timer Nat α) : isBefore m m' = decide (m.key < m'.key) := by
  rw [Bool.eq_iff_iff, isBefore, decide_eq_true_iff, key_lt_key, Bool.or_eq_true, Bool.and_eq_true, beq_iff_eq,
    decide_eq_true_iff, decide_eq_true_iff]

/-- No timer comes before the earliest one. -/
theorem key_le_of_earliest (h : earliest? ms = some m) : ∀ x ∈ ms, m.key ≤ x.key := by
  have least (xs : List (Timer Nat α)) (best : Timer Nat α) :
      ∀ x ∈ best :: xs, (xs.foldl (fun best x => if isBefore x best then x else best) best).key ≤ x.key := by
    induction xs generalizing best with
    | nil => exact fun x hx => List.mem_singleton.mp hx ▸ le_refl _
    | cons y ys ih =>
      intro x hx
      rw [List.foldl_cons, isBefore_eq]
      split
      next less =>
        have first := ih y y (.head _)
        rcases List.mem_cons.mp hx with rfl | hx
        · exact first.trans (le_of_lt (of_decide_eq_true less))
        · exact ih y x hx
      next notLess =>
        have first := ih best best (.head _)
        rcases List.mem_cons.mp hx with rfl | hx
        · exact first
        · rcases List.mem_cons.mp hx with rfl | hx
          · exact first.trans (not_lt.mp fun less => notLess (decide_eq_true less))
          · exact ih best x (.tail _ hx)
  match ms, h with
  | y :: ys, h => exact Option.some.inj h ▸ least ys y

theorem now_le_after (t : Timers Nat α) (d : Deed Nat α) : t.now ≤ (t.after d).now := by
  match d with
  | .schedule .. => exact le_refl _
  | .cancel _ => exact le_refl _
  | .fire =>
    cases h : earliest? t.pending with
    | none => rw [after_fire_none h]
    | some m =>
      rw [now_fire h]
      split
      next less => exact le_of_lt less
      next => exact le_refl _

/-- The clock never goes back. -/
theorem now_le_afterAll (t : Timers Nat α) (ds : List (Deed Nat α)) : t.now ≤ (t.afterAll ds).now := by
  induction ds generalizing t with
  | nil => exact le_refl _
  | cons d ds ih => exact (now_le_after t d).trans (ih _)

/-- What is pending is not overdue, and has a turn of its own that was given to it. -/
structure Sound (t : Timers Nat α) : Prop where
  clock : ∀ m ∈ t.pending, t.now ≤ m.due
  turn : ∀ m ∈ t.pending, m.turn < t.nextTurn
  apart : ∀ m ∈ t.pending, ∀ m' ∈ t.pending, m.turn = m'.turn → m.id = m'.id

theorem sound_start : (start 0 : Timers Nat α).Sound := ⟨nofun, nofun, nofun⟩

/-- What is pending after a deed was pending before, or is the one timer that has got the next turn. -/
theorem exists_newcomer (t : Timers Nat α) (d : Deed Nat α) : ∃ id, ∀ m ∈ (t.after d).pending,
    m ∈ t.pending ∨ m.id = id ∧ m.turn = t.nextTurn ∧ t.nextTurn < (t.after d).nextTurn ∧ (t.after d).now ≤ m.due := by
  match d with
  | .schedule task wait repeats =>
    refine ⟨t.nextId, fun m hm => (mem_schedule.mp hm).imp_right ?_⟩
    rintro rfl
    exact ⟨rfl, rfl, Nat.lt_succ_self _, Nat.le_add_right _ _⟩
  | .cancel _ => exact ⟨0, fun m hm => .inl (mem_cancel.mp hm).1⟩
  | .fire =>
    cases h : earliest? t.pending with
    | none =>
      rw [after_fire_none h]
      exact ⟨0, fun m hm => .inl hm⟩
    | some x =>
      refine ⟨x.id, fun m hm => ((mem_fire h).mp hm).imp And.left ?_⟩
      rintro ⟨wait, interval, rfl⟩
      have next : (t.after .fire).nextTurn = t.nextTurn + 1 := by rw [after_fire h, interval]
      exact ⟨rfl, rfl, next ▸ Nat.lt_succ_self _, now_fire h ▸ Nat.le_add_right _ _⟩

namespace Sound

variable (S : t.Sound)

include S

theorem now_of_fires (h : t.fires? d = some m) : (t.after d).now = m.due := by
  obtain ⟨rfl, e⟩ := earliest_of_fires h
  have due := S.clock m (mem_of_earliest e)
  rw [now_fire e]
  split
  · rfl
  · omega

/-- What is still pending is not overdue after a deed. -/
theorem now_le_due (hm : m ∈ t.pending) (left : m ∈ (t.after d).pending) : (t.after d).now ≤ m.due := by
  match d with
  | .schedule .. => exact S.clock m hm
  | .cancel _ => exact S.clock m hm
  | .fire =>
    cases h : earliest? t.pending with
    | none =>
      rw [after_fire_none h]
      exact S.clock m hm
    | some x =>
      rw [S.now_of_fires (show t.fires? .fire = some x from h)]
      exact (Prod.Lex.toLex_le_toLex.mp (key_le_of_earliest h m hm)).elim le_of_lt fun same => le_of_eq same.1

theorem after (d : Deed Nat α) : (t.after d).Sound := by
  obtain ⟨id, newcomer⟩ := exists_newcomer t d
  refine ⟨fun m hm => ?_, fun m hm => ?_, fun m hm m' hm' same => ?_⟩
  · rcases newcomer m hm with old | ⟨-, -, -, due⟩
    · exact S.now_le_due old hm
    · exact due
  · rcases newcomer m hm with old | ⟨-, turn, next, -⟩
    · exact Nat.lt_of_lt_of_le (S.turn m old) (nextTurn_le_after t d)
    · exact turn ▸ next
  · rcases newcomer m hm with old | ⟨id, turn, -, -⟩ <;> rcases newcomer m' hm' with old' | ⟨id', turn', -, -⟩
    · exact S.apart m old m' old' same
    · exact absurd (same.trans turn') (Nat.ne_of_lt (S.turn m old))
    · exact absurd (same.symm.trans turn) (Nat.ne_of_lt (S.turn m' old'))
    · exact id.trans id'.symm

theorem afterAll (ds : List (Deed Nat α)) : (t.afterAll ds).Sound := by
  induction ds generalizing t with
  | nil => exact S
  | cons d ds ih => exact ih (S.after d)

end Sound

/-- A timer has fired, and all that fires from now on comes after it. -/
structure Past (x : Timer Nat α) (t : Timers Nat α) : Prop where
  now : x.due ≤ t.now
  turn : x.turn < t.nextTurn
  pending : ∀ m ∈ t.pending, x.key < m.key

/-- A timer that fires comes before all that is pending then. -/
theorem Sound.past_of_fires (S : t.Sound) (h : t.fires? d = some x) : Past x (t.after d) := by
  have now := S.now_of_fires h
  obtain ⟨id, newcomer⟩ := exists_newcomer t d
  have turn := S.turn x (mem_of_fires h)
  refine ⟨le_of_eq now.symm, Nat.lt_of_lt_of_le turn (nextTurn_le_after t d), fun m hm => ?_⟩
  obtain ⟨rfl, e⟩ := earliest_of_fires h
  have ordered (due : x.due ≤ m.due) (turn : x.turn < m.turn) : x.key < m.key :=
    key_lt_key.mpr ((Nat.lt_or_eq_of_le due).imp_right fun same => ⟨same, turn⟩)
  rcases (mem_fire e).mp hm with ⟨old, other⟩ | ⟨wait, -, rfl⟩
  · refine lt_of_le_of_ne (key_le_of_earliest e m old) fun same => other ?_
    exact (S.apart x (mem_of_earliest e) m old (congrArg (fun k => (ofLex k).2) same)).symm
  · refine ordered ?_ turn
    have : (t.after .fire).now ≤ (if t.now < x.due then x.due else t.now) + wait := now_fire e ▸ Nat.le_add_right _ _
    exact now ▸ this

theorem Past.after (P : Past x t) (d : Deed Nat α) : Past x (t.after d) := by
  obtain ⟨id, newcomer⟩ := exists_newcomer t d
  have now := P.now.trans (now_le_after t d)
  refine ⟨now, Nat.lt_of_lt_of_le P.turn (nextTurn_le_after t d), fun m hm => ?_⟩
  rcases newcomer m hm with old | ⟨-, turn, -, due⟩
  · exact P.pending m old
  · exact key_lt_key.mpr ((Nat.lt_or_eq_of_le (now.trans due)).imp_right fun same => ⟨same, turn ▸ P.turn⟩)

theorem Past.lt_of_mem_fired (P : Past x t) (h : m ∈ t.fired ds) : x.key < m.key := by
  induction ds generalizing t with
  | nil => cases h
  | cons d ds ih =>
    rcases mem_fired_cons.mp h with h | h
    · exact P.pending m (mem_of_fires h)
    · exact ih (P.after d) h

/-- Timers fire in the order of when they are due and of their turns. -/
theorem Sound.fired_pairwise (S : t.Sound) (ds : List (Deed Nat α)) :
    (t.fired ds).Pairwise fun m m' => m.key < m'.key := by
  induction ds generalizing t with
  | nil => exact .nil
  | cons d ds ih =>
    refine List.pairwise_append.mpr ⟨by cases t.fires? d <;> simp, ih (S.after d), fun x hx m hm => ?_⟩
    exact (S.past_of_fires (Option.mem_toList.mp hx)).lt_of_mem_fired hm

end Clock

/-! ### What holds of all histories -/

/-- What holds of the numbers of timers in a history that begins there. -/
structure NumbersHold [LT τ] [DecidableLT τ] [BEq τ] [Add τ] (t : Timers τ α) (ds : List (Deed τ α)) : Prop where
  /-- No number is given twice. -/
  unique : (t.given ds).Nodup
  /-- A timer that does not repeat fires at most once. -/
  once : ∀ done task wait later, ds = done ++ .schedule task wait false :: later →
    (t.fired ds).countP (·.id == ((t.afterAll done).schedule task wait false).1) ≤ 1
  /-- A timer that was taken back does not fire after that. -/
  takenBack : ∀ done id later, ds = done ++ .cancel id :: later → id ∈ t.given done →
    ∀ m ∈ (t.afterAll (done ++ [.cancel id])).fired later, m.id ≠ id
  /-- A timer that is not taken back is pending, or does not repeat and has fired. -/
  kept : ∀ done task wait repeats later id, ds = done ++ .schedule task wait repeats :: later →
    id = ((t.afterAll done).schedule task wait repeats).1 → .cancel id ∉ later →
      (∃ m ∈ (t.afterAll ds).pending, m.id = id) ∨ repeats = false ∧ ∃ m ∈ t.fired ds, m.id = id

/-- What holds of the times of timers in a history that begins at zero. -/
structure TimesHold (ds : List (Deed Nat α)) : Prop where
  /-- Timers fire in the order of when they are due, and those due at the same time in the order of their turns. -/
  order : ((start 0).fired ds).Pairwise fun m m' => m.due < m'.due ∨ m.due = m'.due ∧ m.turn < m'.turn
  /-- The clock does not go back. -/
  forward : ∀ done later, ds = done ++ later → ((start 0).afterAll done).now ≤ ((start 0).afterAll ds).now
  /-- No timer that is pending is overdue. -/
  ahead : ∀ m ∈ ((start 0).afterAll ds).pending, ((start 0).afterAll ds).now ≤ m.due

theorem afterAll_append [LT τ] [DecidableLT τ] [BEq τ] [Add τ] (t : Timers τ α) (ds es : List (Deed τ α)) :
    t.afterAll (ds ++ es) = (t.afterAll ds).afterAll es := List.foldl_append

/-- The numbers hold whatever times are. -/
theorem numbersHold_start [LT τ] [DecidableLT τ] [BEq τ] [Add τ] (now : τ) (ds : List (Deed τ α)) :
    NumbersHold (start now) ds where
  unique := (given_pairwise _ ds).imp Nat.ne_of_lt
  once := by
    rintro done task wait later rfl
    have N := (numbered_start now : (start now : Timers τ α).Numbered).afterAll done
    have before : ((start now).fired done).countP (·.id == ((start now : Timers τ α).afterAll done).nextId) = 0 := by
      rw [List.countP_eq_zero]
      intro m hm same
      exact Nat.ne_of_lt ((numbered_start now).lt_of_mem_fired hm) (eq_of_beq same)
    rw [fired_append, List.countP_append]
    refine (Nat.add_le_add (Nat.le_of_eq before) ?_).trans (Nat.le_of_eq (Nat.zero_add 1))
    exact (known_schedule N task wait false).countP_fired_le_one later
  takenBack := by
    rintro done id later rfl hid m hm
    rw [afterAll_append] at hm
    exact (gone_cancel (bounds_of_mem_given hid).2).ne_of_mem_fired hm
  kept := by
    rintro done task wait repeats later id rfl rfl kept
    have N := (numbered_start now : (start now : Timers τ α).Numbered).afterAll done
    have K := known_schedule N task wait repeats
    rw [afterAll_append]
    refine (K.pending_or_fired ⟨_, mem_schedule.mpr (.inr rfl), rfl⟩ kept).imp_right (And.imp_right ?_)
    rintro ⟨m, hm, same⟩
    refine ⟨m, ?_, same⟩
    rw [fired_append]
    exact List.mem_append_right _ hm

/-- Whatever is done to timers, they fire in order and the clock goes forward to where nothing is overdue; numbers are
not used again, and each timer fires as long as it is set and no longer. -/
theorem histories_hold (ds : List (Deed Nat α)) : TimesHold ds ∧ NumbersHold (start 0) ds where
  left := {
    order := (sound_start.fired_pairwise ds).imp key_lt_key.mp
    forward := by
      rintro done later rfl
      rw [afterAll_append]
      exact now_le_afterAll _ later
    ahead := (sound_start.afterAll ds).clock }
  right := numbersHold_start 0 ds

/-- A timer that repeats takes a new turn when it fires, behind one that was set for the same time. -/
example : ((start 0).fired [.schedule 'a' 10 true, .schedule 'b' 20 false, .fire, .fire, .cancel 1, .fire]).map
    (fun m => (m.task, m.key)) = [('a', toLex (10, 0)), ('b', toLex (20, 1))] := by decide

end Timers

end Pagewalk.Script
