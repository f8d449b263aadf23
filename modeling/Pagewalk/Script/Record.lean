import Pagewalk.Script.World

/-!
# Records of evaluations

How an evaluation stands is kept in a record, an object of its realm. The functions that settle it are made together
with it. So from one realm to a later one what a function settles stays the same, and what a new one settles is new
too.
-/

namespace Pagewalk.Script

open Text

/-! ### Setting properties -/

namespace Obj

/-- An object without properties. -/
def ofShape (parent : Option Ref) (shape : Shape) : Obj :=
  { parent := parent, shape := shape, properties := ∅, order := #[] }

/-- The object with a property. -/
def setProperty (o : Obj) (key : Name) (p : Property) : Obj :=
  if o.properties.contains key then { o with properties := o.properties.insert key p }
  else { o with properties := o.properties.insert key p, order := o.order.push key }

end Obj

theorem shape_setProperty (o : Obj) (key : Name) (p : Property) : (o.setProperty key p).shape = o.shape := by
  rw [Obj.setProperty]
  split <;> rfl

/-! ### Entries -/

/-- What is entered into a record: that the evaluation succeeded with a value, that it failed, and why. -/
inductive Entry where
  | success (v : Value)
  | failure
  | reason (v : Value)
  deriving Inhabited

namespace Entry

/-- The parts of a record that an entry sets, in order. -/
def parts : Entry → List (Name × Value)
  | success v => [("settled", .bool true), ("ok", .bool true), ("value", v)]
  | failure => [("settled", .bool true)]
  | reason v => [("error", v)]

/-- A record with an entry. -/
def into (e : Entry) (o : Obj) : Obj := e.parts.foldl (fun o (part, v) => o.setProperty part (.plain v)) o

theorem shape_into (e : Entry) (o : Obj) : (e.into o).shape = o.shape := by
  rw [into]
  induction e.parts generalizing o with
  | nil => rfl
  | cons p ps ih => exact (ih _).trans (shape_setProperty o p.1 (.plain p.2))

end Entry

/-! ### Functions that settle evaluations -/

/-- The record of an evaluation that a function settles when it is called, and whether as a success. -/
def Shape.settles? : Shape → Option (Ref × Bool)
  | .native (.environment (.settle record ok)) _ => some (record, ok)
  | _ => none

namespace Realm

/-- What the object that stands there settles. -/
def settles? (m : Realm) (f : Ref) : Option (Ref × Bool) := m.objects[f]?.bind fun o => o.shape.settles?

/-- Objects are never taken away, what they settle stays the same, and what new ones settle is new like them. -/
structure Grows (m m' : Realm) : Prop where
  size : m.objects.size ≤ m'.objects.size
  settles : ∀ f < m.objects.size, m'.settles? f = m.settles? f
  fresh : ∀ f record ok, m.objects.size ≤ f → m'.settles? f = some (record, ok) → m.objects.size ≤ record ∧ record < f

/-- How a step may change a realm. -/
structure Upholds (m m' : Realm) : Prop extends Grows m m' where
  timers : m'.timers = m.timers

variable {m m' m'' : Realm}

theorem settles?_eq_none_of_le {f : Ref} (h : m.objects.size ≤ f) : m.settles? f = none := by
  rw [settles?, Array.getElem?_eq_none h]
  rfl

theorem Grows.of_objects (h : m'.objects = m.objects) : m.Grows m' where
  size := Nat.le_of_eq (congrArg Array.size h.symm)
  settles f _ := by rw [settles?, settles?, h]
  fresh f record ok outside some := by
    rw [settles?_eq_none_of_le (h ▸ outside)] at some
    cases some

theorem Grows.refl (m : Realm) : m.Grows m := .of_objects rfl

theorem Grows.trans (h : m.Grows m') (h' : m'.Grows m'') : m.Grows m'' where
  size := Nat.le_trans h.size h'.size
  settles f hf := (h'.settles f (Nat.lt_of_lt_of_le hf h.size)).trans (h.settles f hf)
  fresh f record ok outside some := by
    rcases Nat.lt_or_ge f m'.objects.size with inside | later
    · exact h.fresh f record ok outside ((h'.settles f inside).symm.trans some)
    · obtain ⟨new, before⟩ := h'.fresh f record ok later some
      exact ⟨Nat.le_trans h.size new, before⟩

theorem Upholds.of_objects (objects : m'.objects = m.objects) (timers : m'.timers = m.timers) : m.Upholds m' :=
  ⟨.of_objects objects, timers⟩

theorem upholds_push {o : Obj} (h : o.shape.settles? = none) (m : Realm) :
    m.Upholds { m with objects := m.objects.push o } where
  size := by
    rw [Array.size_push]
    exact Nat.le_succ _
  settles f hf := by
    rw [settles?, settles?, Array.getElem?_push, if_neg (Nat.ne_of_lt hf)]
  fresh f record ok outside some := by
    rw [settles?, Array.getElem?_push] at some
    split at some
    next => exact nomatch h.symm.trans some
    next => exact nomatch (settles?_eq_none_of_le outside).symm.trans some
  timers := rfl

theorem upholds_modify {f : Obj → Obj} (h : ∀ o, (f o).shape.settles? = o.shape.settles?) (m : Realm) (r : Ref) :
    m.Upholds { m with objects := m.objects.modify r f } := by
  have same (g : Ref) : settles? { m with objects := m.objects.modify r f } g = m.settles? g := by
    rw [settles?, settles?, Array.getElem?_modify]
    split
    next => cases m.objects[g]? <;> simp [h]
    next => rfl
  refine ⟨⟨Nat.le_of_eq Array.size_modify.symm, fun g _ => same g, fun g record ok outside some => ?_⟩, rfl⟩
  rw [same, settles?_eq_none_of_le outside] at some
  cases some

/-- The realm with an entry in the record that stands there. -/
def enter (m : Realm) (record : Ref) (e : Entry) : Realm := { m with objects := m.objects.modify record e.into }

theorem upholds_enter (m : Realm) (record : Ref) (e : Entry) : m.Upholds (m.enter record e) :=
  upholds_modify (fun o => congrArg Shape.settles? (e.shape_into o)) m record

end Realm

end Pagewalk.Script
