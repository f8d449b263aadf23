import Std.Data.HashSet
import Pagewalk.Script.Operators

/-!
# Going through items

Arrays and the arguments of calls are gone through item by item as they stand when each item is reached, and texts
by their characters. No other items can be gone through. The keys of an object are gone through as they were when it
was reached, and after them those of its parents.
-/

namespace Pagewalk.Script

open Text

/-- What can be gone through: the items of an object, or values that are known. -/
inductive Items where
  | live (r : Ref)
  | fixed (vs : List Value)

/-- The characters of a text; a lone half stands for itself. -/
def charactersOf (s : CodeUnits) : List Value :=
  (decodeUnits s.val.toList).map fun
    | .ok c => .text (CodeUnits.ofChars [c])
    | .error h => .text ⟨#[h]⟩

/-- A value can be gone through. -/
def isIterable (v : Value) : Run Bool := do
  match v with
  | .text _ => return true
  | .object r =>
    return match (← object r).shape with
      | .array .. => true
      | .arguments .. => true
      | .boxed (.text _) => true
      | _ => false
  | _ => return false

/-- What there is to go through in a value. -/
def itemsIn (v : Value) : Run Items := do
  match v with
  | .text s => return .fixed (charactersOf s)
  | .object r =>
    match (← object r).shape with
    | .array .. => return .live r
    | .arguments .. => return .live r
    | .boxed (.text s) => return .fixed (charactersOf s)
    | _ => typeFault ("value with type `" ++ (← typeName v) ++ "` is not iterable")
  | v =>
    if v.isNullish then typeFault "cannot convert 'null' or 'undefined' to object"
    typeFault ("value with type `" ++ (← typeName v) ++ "` is not iterable")

/-- What is left to go through. -/
inductive Ahead where
  | items (r : Ref) (next : Nat)
  | values (vs : List Value)
  /-- Keys of an object, and of its parents those that were not met. -/
  | keys (r : Ref) (left : List Name) (met : Std.HashSet Name)

/-- The first of some keys of an object that was not met and is seen, and what was met then. -/
def nextKeyOf (r : Ref) :
    (left : List Name) → (met : Std.HashSet Name) → Run (Option (Name × List Name) × Std.HashSet Name)
  | [], met => return (none, met)
  | key :: left, met => do
    if met.contains key then nextKeyOf r left met
    else
      match (← object r).own? key with
      | none => nextKeyOf r left met
      | some p =>
        if p.isEnumerable then return (some (key, left), met.insert key)
        else nextKeyOf r left (met.insert key)

/-- The next key of an object or of its parents, of which there are less than so many. -/
def nextKey : Nat → Ref → (left : List Name) → (met : Std.HashSet Name) → Run (Option (Value × Ahead))
  | 0, _, _, _ => return none
  | n + 1, r, left, met => do
    match ← nextKeyOf r left met with
    | (some (key, left), met) => return some (.text key, .keys r left met)
    | (none, met) =>
      match (← object r).parent with
      | some p => nextKey n p (← object p).keys met
      | none => return none

/-- The next of what is gone through. -/
def Kernel.nextOf (k : Kernel) : Ahead → Run (Option (Value × Ahead))
  | .items r i => do if i < (← k.lengthOf r) then return some (← k.item r i, .items r (i + 1)) else return none
  | .values [] => return none
  | .values (v :: vs) => return some (v, .values vs)
  | .keys r left met => do nextKey ((← realm).objects.size + 1) r left met

/-- What there is to go through in a value; nothing has no keys. -/
def aheadIn (course : Course) (v : Value) : Run Ahead := do
  match course with
  | .items =>
    match ← itemsIn v with
    | .live r => return .items r 0
    | .fixed vs => return .values vs
  | .keys =>
    if v.isNullish then return .values []
    let r ← toObject v
    return .keys r (← object r).keys ∅

/-- Runs a step for each item of an object from an index on, at most so often. -/
def Kernel.forItems (k : Kernel) (r : Ref) (step : Nat → Value → Run Unit) : Nat → Nat → Run Unit
  | 0, _ => return ()
  | n + 1, i => do
    if i < (← k.lengthOf r) then
      step i (← k.item r i)
      k.forItems r step n (i + 1)
    else return ()

/-- Runs a step for each item. -/
def Kernel.forEachItem (k : Kernel) (items : Items) (step : Nat → Value → Run Unit) : Run Unit :=
  match items with
  | .live r => k.forItems r step 4294967296 0
  | .fixed vs => vs.zipIdx.forM fun (v, i) => step i v

end Pagewalk.Script
