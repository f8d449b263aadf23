import Pagewalk.Script.Heap

/-!
# Descriptions of properties

A description says some things about a property and leaves others open. What it leaves open stays as it is; for a
new property it is empty or false. A property that may not be configured allows few changes, and an object that is
closed allows no new ones.
-/

namespace Pagewalk.Script

/-- What is said about a property. -/
structure Description where
  value : Option Value := none
  isWritable : Option Bool := none
  get : Option (Option Ref) := none
  set : Option (Option Ref) := none
  isEnumerable : Option Bool := none
  isConfigurable : Option Bool := none
  deriving Inhabited

namespace Description

/-- The description is of functions that stand for a value. -/
def isOfAccessor (d : Description) : Bool := d.get.isSome || d.set.isSome

/-- The description is of a value. -/
def isOfData (d : Description) : Bool := d.value.isSome || d.isWritable.isSome

/-- All that can be said about a property. -/
def ofProperty : Property → Description
  | .data v w e c => { value := some v, isWritable := some w, isEnumerable := some e, isConfigurable := some c }
  | .accessor g s e c => { get := some g, set := some s, isEnumerable := some e, isConfigurable := some c }

/-- The property of a description that changes another, if there was one. -/
def changed (d : Description) (old : Option Property) : Property :=
  let isEnumerable := d.isEnumerable.getD (old.any Property.isEnumerable)
  let isConfigurable := d.isConfigurable.getD (old.any Property.isConfigurable)
  let data (v : Value) (w : Bool) : Property :=
    .data (d.value.getD v) (d.isWritable.getD w) isEnumerable isConfigurable
  let accessor (g s : Option Ref) : Property := .accessor (d.get.getD g) (d.set.getD s) isEnumerable isConfigurable
  match old with
  | some (.data v w ..) => if d.isOfAccessor then accessor none none else data v w
  | some (.accessor g s ..) => if d.isOfData then data .undefined false else accessor g s
  | none => if d.isOfAccessor then accessor none none else data .undefined false

/-- What a description says is so already, or is left open. -/
def agrees {α : Type} (said : Option α) (isSame : α → Bool) : Bool := said.all isSame

/-- A property may be changed as described: freely if it may be configured, and otherwise only so far that it can be
written no more, or given another value while it can be written. -/
def isAllowed (d : Description) (old : Property) : Bool :=
  old.isConfigurable ||
    (agrees d.isConfigurable (!·) && agrees d.isEnumerable (· == old.isEnumerable) &&
      match old with
      | .data v isWritable .. =>
        !d.isOfAccessor && (isWritable || (agrees d.isWritable (!·) && agrees d.value v.same))
      | .accessor g s .. => !d.isOfData && agrees d.get (· == g) && agrees d.set (· == s))

end Description

/-- The object can get a property as described. -/
def Obj.allows (o : Obj) (key : Name) (d : Description) : Bool :=
  match o.own? key with
  | some old => d.isAllowed old
  | none => o.takes key

/-- Gives an object a property as described, unless the object does not allow that. -/
def describe (r : Ref) (key : Name) (d : Description) : Run Bool := do
  let o ← object r
  if o.allows key d then
    defineProperty r key (d.changed (o.own? key))
    return true
  else return false

/-! ### Closed objects -/

/-- Lets an object take no more properties; its own ones cannot be configured any more, and not be written if the
object is to be frozen. -/
def closeObject (r : Ref) (frozen : Bool) : Run Unit := do
  sealObject r
  for key in (← object r).keys do
    let isData := match (← object r).own? key with
      | some (.data ..) => true
      | _ => false
    discard <| describe r key
      { isConfigurable := some false, isWritable := if frozen && isData then some false else none }

/-- The object takes no more properties and keeps those that it has; if it is frozen, their values too. -/
def Obj.isClosed (o : Obj) (frozen : Bool) : Bool :=
  !o.isOpen && o.keys.all fun key =>
    match o.own? key with
    | some (.data _ w _ c) => !c && !(frozen && w)
    | some (.accessor _ _ _ c) => !c
    | none => true

end Pagewalk.Script
