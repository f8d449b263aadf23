import Mathlib.Algebra.Group.Action.End
import Mathlib.Algebra.Group.Action.Option
import Pagewalk.Proofs.Event.Turns

/-!
# Renaming the listeners of a run

A routine treats the numbers of listeners as opaque if a renaming of all listeners changes nothing about it: whatever
numbers it gets, it does the same with them, and it asks for no other. Two runs of it in which the listeners have
different numbers are compared at a stage: which listeners were given so far, and which has which number in the other
run. What a renaming does to listeners that were not given is open, so nothing may depend on it.
-/

namespace Pagewalk

open Equiv (Perm)

variable {σ : Type}

namespace Routine

/-- Neither the routine nor a listener that it adds reads the number of listeners. -/
def NeverCounts : Routine σ → Prop
  | done _ => True
  | emit _ next => ∀ o, (next o).NeverCounts
  | subscribe _ k next => (∀ e, (k e).NeverCounts) ∧ ∀ a, (next a).NeverCounts
  | unsubscribe _ next => ∀ b, (next b).NeverCounts
  | count _ => False
  | note _ next => (next ()).NeverCounts
  | openWindow _ _ _ next => ∀ p, (next p).NeverCounts
  | evaluate _ _ next => ∀ a, (next a).NeverCounts
  | read next => ∀ m, (next m).NeverCounts
  | write _ next => (next ()).NeverCounts

theorem NeverCounts.announce (e : Event) {next : Unit → Routine σ} (rest : (next ()).NeverCounts) :
    (announce e next).NeverCounts := by
  intro o
  cases o with
  | error x => trivial
  | ok => exact rest

variable [MulAction (Perm ListenerId) σ]

/-- The routine after all listeners have got other numbers: it gets the new numbers and asks for them. -/
def renamed (ρ : Perm ListenerId) : Routine σ → Routine σ
  | done o => done o
  | emit e next => emit e fun o => (next o).renamed ρ
  | subscribe f k next => subscribe f (fun e => (k e).renamed ρ) fun a => (next (a.map ρ.symm)).renamed ρ
  | unsubscribe id next => unsubscribe (ρ id) fun b => (next b).renamed ρ
  | count next => count fun n => (next n).renamed ρ
  | note rs next => note rs fun u => (next u).renamed ρ
  | openWindow d url config next => openWindow d url config fun p => (next p).renamed ρ
  | evaluate page source next => evaluate page source fun a => (next a).renamed ρ
  | read next => read fun m => (next (ρ⁻¹ • m)).renamed ρ
  | write m next => write (ρ • m) fun u => (next u).renamed ρ

theorem renamed_announce (ρ : Perm ListenerId) (e : Event) (next : Unit → Routine σ) :
    (announce e next).renamed ρ = announce e fun u => (next u).renamed ρ := by
  refine congrArg (emit e) (funext fun o => ?_)
  cases o <;> rfl

/-- The routine treats the numbers of listeners as opaque: it does the same whatever numbers they have. -/
def IsOpaque (r : Routine σ) : Prop := ∀ ρ, r.renamed ρ = r

end Routine

/-! ### Stages -/

/-- The listeners from one number on move up to the next one, up to a last listener that takes the free number. -/
def rotation (first last : Nat) : Perm ListenerId where
  toFun i := if i.number < first ∨ last < i.number then i else if i.number = last then ⟨first⟩ else ⟨i.number + 1⟩
  invFun i := if i.number < first ∨ last < i.number then i else if i.number = first then ⟨last⟩ else ⟨i.number - 1⟩
  left_inv i := by
    obtain ⟨n⟩ := i
    grind
  right_inv i := by
    obtain ⟨n⟩ := i
    grind

/-- How far a run and the same run with a guest among the listeners have come. -/
structure Stage where
  /-- The number of the guest, if it has come. -/
  guest : Option Nat
  /-- The number of the next listener in the run without the guest. -/
  next : Nat
  sound : ∀ k ∈ guest, k ≤ next

namespace Stage
variable {s t u : Stage} {i j : ListenerId} {ρ : Perm ListenerId}

/-- The number that a listener has in the run with the guest: those that come after the guest have one more. -/
def moved (s : Stage) (i : ListenerId) : ListenerId :=
  match s.guest with
  | none => i
  | some k => if i.number < k then i else ⟨i.number + 1⟩

/-- The renaming is right for every listener that was given so far. -/
def Allows (s : Stage) (ρ : Perm ListenerId) : Prop := ∀ i, i.number < s.next → ρ i = s.moved i

/-- Another listener has come. -/
def grown (s : Stage) : Stage := ⟨s.guest, s.next + 1, fun k hk => Nat.le_succ_of_le (s.sound k hk)⟩

/-- The guest has come. -/
def joined (s : Stage) : Stage := ⟨some s.next, s.next, fun _ hk => (Option.mem_some.mp hk).ge⟩

/-- The first stage leads to the second. -/
structure Leads (s t : Stage) : Prop where
  next : s.next ≤ t.next
  guest : t.guest = s.guest ∨ s.guest = none ∧ ∀ k ∈ t.guest, s.next ≤ k

namespace Leads

theorem refl (s : Stage) : s.Leads s := ⟨Nat.le_refl _, .inl rfl⟩

theorem trans (h : s.Leads t) (h' : t.Leads u) : s.Leads u := by
  refine ⟨h.next.trans h'.next, ?_⟩
  rcases h.guest with same | ⟨before, after⟩
  · rw [← same]
    exact h'.guest.imp_right fun ⟨before, after⟩ => ⟨before, fun k hk => h.next.trans (after k hk)⟩
  · refine .inr ⟨before, fun k hk => ?_⟩
    rcases h'.guest with same | ⟨-, after'⟩
    · exact after k (same ▸ hk)
    · exact h.next.trans (after' k hk)

theorem grown (s : Stage) : s.Leads s.grown := ⟨Nat.le_succ _, .inl rfl⟩

theorem joined (h : s.guest = none) : s.Leads s.joined :=
  ⟨Nat.le_refl _, .inr ⟨h, fun _ hk => (Option.mem_some.mp hk).le⟩⟩

theorem moved_eq (h : s.Leads t) (given : i.number < s.next) : t.moved i = s.moved i := by
  rcases h.guest with same | ⟨before, after⟩
  · rw [moved, moved, same]
  · rw [moved, moved, before]
    cases ht : t.guest with
    | none => rfl
    | some k => exact if_pos (given.trans_le (after k ht))

theorem allows (h : s.Leads t) (ht : t.Allows ρ) : s.Allows ρ := fun i given =>
  (ht i (given.trans_le h.next)).trans (h.moved_eq given)

end Leads

theorem moved_injective (h : s.moved i = s.moved j) : i = j := by
  obtain ⟨m⟩ := i
  obtain ⟨n⟩ := j
  unfold moved at h
  grind

theorem moved_ne {k : Nat} (hk : s.guest = some k) : s.moved i ≠ ⟨k⟩ := by
  obtain ⟨n⟩ := i
  unfold moved
  grind

theorem moved_le (s : Stage) (i : ListenerId) : (s.moved i).number ≤ i.number + 1 := by
  obtain ⟨n⟩ := i
  unfold moved
  grind

theorem moved_next (s : Stage) : s.moved ⟨s.next + 1⟩ = ⟨(s.moved ⟨s.next⟩).number + 1⟩ := by
  obtain ⟨guest, next, sound⟩ := s
  cases guest with
  | none => rfl
  | some k =>
    have le : k ≤ next := sound k rfl
    simp only [moved, if_neg (Nat.not_lt.mpr le), if_neg (Nat.not_lt.mpr (Nat.le_succ_of_le le))]

theorem exists_allows (s : Stage) : ∃ ρ, s.Allows ρ := by
  cases hs : s.guest with
  | none =>
    refine ⟨1, fun i _ => ?_⟩
    rw [moved, hs]
    rfl
  | some k =>
    refine ⟨rotation k s.next, fun i given => ?_⟩
    have sound := s.sound k hs
    rw [moved, hs]
    change ite _ _ _ = _
    grind

/-- What a renaming does to a listener that was not given is open. -/
theorem Allows.exists_ne (h : s.Allows ρ) (free : ¬ i.number < s.next) : ∃ ρ', s.Allows ρ' ∧ ρ' i ≠ ρ i := by
  let other : ListenerId := ⟨i.number + 1⟩
  have ne : other ≠ i := fun same => Nat.succ_ne_self _ (congrArg ListenerId.number same)
  refine ⟨ρ * Equiv.swap i other, fun j given => ?_, ?_⟩
  · have hi : j ≠ i := fun same => free (same ▸ given)
    have ho : j ≠ other := fun same => free ((Nat.lt_succ_self _).trans (by rwa [same] at given))
    rw [Perm.mul_apply, Equiv.swap_apply_of_ne_of_ne hi ho]
    exact h j given
  · rw [Perm.mul_apply, Equiv.swap_apply_left]
    exact fun same => ne (ρ.injective same)

/-! ### What is the same up to a renaming -/

variable [MulAction (Perm ListenerId) σ]

/-- The memories are the same up to the numbers of the listeners that were given. -/
def Recalls (s : Stage) (m m' : σ) : Prop := ∀ ρ, s.Allows ρ → m' = ρ • m

/-- The routines are the same up to the numbers of the listeners that were given. -/
def Same (s : Stage) (r r' : Routine σ) : Prop := ∀ ρ, s.Allows ρ → r' = r.renamed ρ

theorem Recalls.later {m m' : σ} (h : s.Recalls m m') (later : s.Leads t) : t.Recalls m m' := fun ρ hρ =>
  h ρ (later.allows hρ)

namespace Same
variable {r r' : Routine σ}

theorem later (h : s.Same r r') (later : s.Leads t) : t.Same r r' := fun ρ hρ => h ρ (later.allows hρ)

theorem of_isOpaque (h : r.IsOpaque) : s.Same r r := fun ρ _ => (h ρ).symm

theorem done {o : Outcome} (h : s.Same (.done o) r') : r' = .done o := by
  obtain ⟨ρ, hρ⟩ := s.exists_allows
  exact h ρ hρ

theorem emit {e : Event} {next : Outcome → Routine σ} (h : s.Same (.emit e next) r') :
    ∃ next', r' = .emit e next' ∧ ∀ o, s.Same (next o) (next' o) := by
  obtain ⟨ρ, hρ⟩ := s.exists_allows
  obtain rfl := h ρ hρ
  refine ⟨_, rfl, fun o ρ' hρ' => ?_⟩
  injection h ρ' hρ' with _ same
  exact congrFun same o

/-- What comes after a listener was added depends on its number as the later stage has it. -/
theorem subscribe {f : EventFilter} {k : Handler σ} {next : Except Error ListenerId → Routine σ}
    (h : s.Same (.subscribe f k next) r') :
    ∃ k' next', r' = .subscribe f k' next' ∧ (∀ e, s.Same (k e) (k' e)) ∧
      ∀ t, s.Leads t → ∀ i : ListenerId, i.number < t.next → t.Same (next (.ok i)) (next' (.ok (t.moved i))) := by
  obtain ⟨ρ, hρ⟩ := s.exists_allows
  obtain rfl := h ρ hρ
  refine ⟨_, _, rfl, fun e ρ' hρ' => ?_, fun t later i given ρ' hρ' => ?_⟩
  · injection h ρ' hρ' with _ same _
    exact congrFun same e
  · injection h ρ' (later.allows hρ') with _ _ same
    refine (congrFun same (.ok (t.moved i))).trans ?_
    rw [← hρ' i given]
    exact congrArg (fun j => (next (.ok j)).renamed ρ') (ρ'.symm_apply_apply i)

theorem unsubscribe {next : Bool → Routine σ} (h : s.Same (.unsubscribe i next) r') :
    ∃ next', r' = .unsubscribe (s.moved i) next' ∧ ∀ b, s.Same (next b) (next' b) := by
  obtain ⟨ρ, hρ⟩ := s.exists_allows
  -- A number that was not given could be renamed in two ways, and the routine is the same under both.
  have given : i.number < s.next := by
    by_contra free
    obtain ⟨ρ', hρ', ne⟩ := hρ.exists_ne free
    injection (h ρ' hρ').symm.trans (h ρ hρ) with same _
    exact ne same
  obtain rfl := h ρ hρ
  refine ⟨_, by rw [← hρ i given]; rfl, fun b ρ' hρ' => ?_⟩
  injection h ρ' hρ' with _ same
  exact congrFun same b

theorem note {rs : List Log.Record} {next : Unit → Routine σ} (h : s.Same (.note rs next) r') :
    ∃ next', r' = .note rs next' ∧ s.Same (next ()) (next' ()) := by
  obtain ⟨ρ, hρ⟩ := s.exists_allows
  obtain rfl := h ρ hρ
  refine ⟨_, rfl, fun ρ' hρ' => ?_⟩
  injection h ρ' hρ' with _ same
  exact congrFun same ()

theorem openWindow {d : Document} {url : Option Url} {config : ScriptConfig} {next : OpenPage → Routine σ}
    (h : s.Same (.openWindow d url config next) r') :
    ∃ next', r' = .openWindow d url config next' ∧ ∀ p, s.Same (next p) (next' p) := by
  obtain ⟨ρ, hρ⟩ := s.exists_allows
  obtain rfl := h ρ hρ
  refine ⟨_, rfl, fun p ρ' hρ' => ?_⟩
  injection h ρ' hρ' with _ _ _ same
  exact congrFun same p

theorem evaluate {page : OpenPage} {source : String} {next : Except Error ScriptValue → Routine σ}
    (h : s.Same (.evaluate page source next) r') :
    ∃ next', r' = .evaluate page source next' ∧ ∀ a, s.Same (next a) (next' a) := by
  obtain ⟨ρ, hρ⟩ := s.exists_allows
  obtain rfl := h ρ hρ
  refine ⟨_, rfl, fun a ρ' hρ' => ?_⟩
  injection h ρ' hρ' with _ _ same
  exact congrFun same a

theorem read {next : σ → Routine σ} (h : s.Same (.read next) r') :
    ∃ next', r' = .read next' ∧ ∀ m m', s.Recalls m m' → s.Same (next m) (next' m') := by
  obtain ⟨ρ, hρ⟩ := s.exists_allows
  obtain rfl := h ρ hρ
  refine ⟨_, rfl, fun m m' recalls ρ' hρ' => ?_⟩
  injection h ρ' hρ' with same
  refine (congrFun same m').trans ?_
  rw [recalls ρ' hρ', inv_smul_smul]

theorem write {m : σ} {next : Unit → Routine σ} (h : s.Same (.write m next) r') :
    ∃ m' next', r' = .write m' next' ∧ s.Recalls m m' ∧ s.Same (next ()) (next' ()) := by
  obtain ⟨ρ, hρ⟩ := s.exists_allows
  obtain rfl := h ρ hρ
  refine ⟨_, _, rfl, fun ρ' hρ' => ?_, fun ρ' hρ' => ?_⟩
  · injection h ρ' hρ' with same _
  · injection h ρ' hρ' with _ same
    exact congrFun same ()

end Same

end Stage

end Pagewalk
