import Pagewalk.Proofs.Script.Records
import Pagewalk.Script.Setup

/-!
# A realm begins with no record to settle

None of the functions with which a realm begins settles a record, so all that do so were made for evaluations.
-/

namespace Pagewalk.Script

open Text

variable {α β : Type}

/-- None of the objects settles a record. -/
def Unsettling (os : Array Obj) : Prop := ∀ o ∈ os, o.shape.settles? = none

/-- A step of building adds nothing that settles a record. -/
def Build.Harmless (step : Build α) : Prop := ∀ os, Unsettling os → Unsettling (step.run os).2

namespace Build

theorem Harmless.pure (a : α) : Harmless (pure a : Build α) := fun _ h => h

theorem Harmless.bind {step : Build α} {next : α → Build β} (first : Harmless step) (rest : ∀ a, Harmless (next a)) :
    Harmless (step >>= next) := fun os h => rest _ _ (first os h)

theorem Harmless.discard {step : Build α} (h : Harmless step) : Harmless (discard step) := h

/-- A loop adds nothing of the kind if no turn of it does. -/
theorem Harmless.forIn {list : List α} {body : α → PUnit → Build (ForInStep PUnit)}
    (turn : ∀ a ∈ list, ∀ b, Harmless (body a b)) : Harmless (forIn list PUnit.unit body) := by
  induction list with
  | nil => exact .pure _
  | cons a list ih =>
    rw [List.forIn_cons]
    refine .bind (turn a List.mem_cons_self _) fun next => ?_
    cases next with
    | done b => exact .pure b
    | yield b => exact ih fun a ha => turn a (List.mem_cons_of_mem _ ha)

theorem harmless_place {o : Obj} (h : o.shape.settles? = none) : Harmless (place o) := by
  intro os none p hp
  rcases Array.mem_push.mp hp with old | rfl
  · exact none p old
  · exact h

theorem harmless_set (r : Ref) (key : String) (p : Property) : Harmless (set r key p) := by
  intro os none o ho
  change o ∈ os.modify r (·.setProperty (CodeUnits.ofString key) p) at ho
  obtain ⟨i, inside, rfl⟩ := Array.mem_iff_getElem.mp ho
  rw [Array.getElem_modify]
  split
  · rw [shape_setProperty]
    exact none _ (Array.getElem_mem _)
  · exact none _ (Array.getElem_mem _)

theorem harmless_plain : Harmless plain := harmless_place rfl

section Functions

variable {f : Native} (h : ∀ isMaker, (Shape.native f isMaker).settles? = none)
include h

theorem harmless_native (name : String) (arity : Nat) : Harmless (native f name arity) := by
  rw [native]
  split
  next =>
    refine .bind harmless_plain fun parent => .bind (harmless_place ?_) fun r => .bind (fun os none o ho => ?_) fun _ =>
      .pure _
    · rw [makerObject, shape_setProperty, nativeObject, shape_functionObject, h]
    · change o ∈ os.setIfInBounds parent (parentObject r) at ho
      rcases Array.mem_or_eq_of_mem_setIfInBounds ho with old | rfl
      · exact none o old
      · exact congrArg Shape.settles? (shape_parentObject r)
  next =>
    refine harmless_place ?_
    rw [nativeObject, shape_functionObject, h]

theorem harmless_visible (r : Ref) (key name : String) (arity : Nat) : Harmless (visible r key f name arity) :=
  .bind (harmless_native h name arity) fun _ => harmless_set r key _

theorem harmless_maker (name : String) (arity : Nat) (parent : Ref) : Harmless (maker name arity f parent) := by
  refine .bind (harmless_place ?_) fun r => .bind (.bind (harmless_set _ _ _) fun _ => harmless_set _ _ _) fun _ =>
    .pure _
  rw [makerOf, shape_setProperty, nativeObject, shape_functionObject, h]

end Functions

theorem harmless_enter (name : String) (r parent : Ref) : Harmless (enter name r parent) :=
  .bind (harmless_set _ _ _) fun _ => harmless_set _ _ _

theorem harmless_methods (r : Ref) (list : List (String × Nat × Native))
    (h : ∀ q ∈ list, ∀ isMaker, (Shape.native q.2.2 isMaker).settles? = none) : Harmless (methods r list) :=
  .forIn fun q hq _ => .bind (harmless_native (h q hq) q.1 q.2.1) fun _ => .bind (harmless_set r q.1 _) fun _ => .pure _

theorem harmless_family {f : α → Native} (h : ∀ a isMaker, (Shape.native (f a) isMaker).settles? = none) (r : Ref)
    (list : List (String × Nat × α)) : Harmless (family r f list) := by
  refine harmless_methods r _ fun q hq => ?_
  obtain ⟨p, -, rfl⟩ := List.mem_map.mp hq
  exact h p.2.2

end Build

open Build

/-- Nothing that a realm is built from settles a record. -/
theorem harmless_build : Harmless (do buildLanguage; buildSurroundings; buildNodes : Build Unit) := by
  -- The statements are gone through one by one, with the lemma of the step that each of them is.
  unfold buildLanguage buildSurroundings buildNodes
  repeat' first
    | with_reducible refine .bind ?_ fun _ => ?_
    | with_reducible exact harmless_set ..
    | with_reducible exact harmless_enter ..
    | with_reducible exact harmless_plain
    | (with_reducible refine harmless_family ?_ _ _); exact fun _ _ => rfl
    | (with_reducible refine harmless_native ?_ _ _); exact fun _ => rfl
    | (with_reducible refine harmless_visible ?_ _ _ _ _); exact fun _ => rfl
    | (with_reducible refine harmless_maker ?_ _ _ _); exact fun _ => rfl
    | (with_reducible refine harmless_place ?_); rfl
    | (with_reducible refine harmless_methods _ _ ?_); decide
    | (with_reducible refine harmless_methods _ _ ?_); exact List.forall_mem_singleton.mpr fun _ => rfl
    | with_reducible refine .discard ?_
    | with_reducible exact .pure _
    | with_reducible refine .forIn fun _ _ _ => ?_

theorem unsettling_intrinsicObjects : Unsettling intrinsicObjects := by
  simp [Unsettling, intrinsicObjects, nativeObject, makerObject, makerOf, shape_setProperty, shape_functionObject,
    Obj.ofShape, Shape.settles?]

theorem unsettling_bare : Unsettling Realm.bare.objects := by
  have built := harmless_build intrinsicObjects unsettling_intrinsicObjects
  unfold Realm.bare
  dsimp only
  exact built

theorem Unsettling.tidy {m : Realm} (h : Unsettling m.objects) : m.Tidy := by
  intro f r ok settles
  obtain ⟨o, there, settles⟩ := Option.bind_eq_some_iff.mp settles
  exact nomatch (h o (Array.mem_of_getElem? there)).symm.trans settles

/-- A realm begins without functions that settle records. -/
theorem Realm.tidy_bare : Realm.bare.Tidy := unsettling_bare.tidy

end Pagewalk.Script
