import Pagewalk.Script.Limits

/-!
# Conversions of values

How values become texts, numbers, keys and simple values, and how properties are read and written where a function
may stand in their place. Functions are called through a kernel, which knows how deep calls may still go.
-/

namespace Pagewalk.Script

open Text

/-- How functions are called and objects are made by them. -/
structure Kernel where
  apply : (f this : Value) → (args : List Value) → Run Value
  construct : (f : Value) → (args : List Value) → Run Value

/-- The function of a property that is an accessor is called on the value that was asked. -/
def Kernel.readProperty (k : Kernel) (p : Option Property) (receiver : Value) : Run Value :=
  match p with
  | none => return .undefined
  | some (.data v ..) => return v
  | some (.accessor (some g) ..) => k.apply (.object g) receiver []
  | some (.accessor none ..) => return .undefined

/-- The property of an object. -/
def Kernel.property (k : Kernel) (r : Ref) (key : Name) : Run Value := do
  k.readProperty (← findProperty r key) (.object r)

/-- The property of any value. -/
def Kernel.propertyOf (k : Kernel) (v : Value) (key : Name) : Run Value := do
  match v with
  | .text s =>
    if key == lengthKey then return .nat s.size
    match Number.index? key with
    | some i => if i < s.size then return .text (s.slice i (i + 1)) else return .undefined
    | none => k.readProperty (← findProperty Intrinsic.texts.ref key) v
  | v =>
    match parentOfValue? v with
    | none => typeFault "cannot convert 'null' or 'undefined' to object"
    | some r => k.readProperty (← findProperty r key) v

/-- Calls the method of a value. -/
def Kernel.invoke (k : Kernel) (v : Value) (key : Name) (args : List Value) : Run Value := do
  k.apply (← k.propertyOf v key) v args

/-! ### Simple values -/

/-- The first of some methods that answers a simple value gives it. -/
def Kernel.simpleByFirst (k : Kernel) (v : Value) : List Name → Run Value
  | [] => typeFault "cannot convert object to primitive value"
  | m :: ms => do
    let f ← k.propertyOf v m
    if ← isCallable f then
      match ← k.apply f v [] with
      | .object _ => k.simpleByFirst v ms
      | simple => return simple
    else k.simpleByFirst v ms

/-- The simple value that methods of an object give. Within that, the same object counts as nothing. -/
def Kernel.simpleBy (k : Kernel) (r : Ref) (methods : List Name) (nothing : Value) : Run Value := do
  if (← read).converting.contains r then return nothing
  withReader (fun c => { c with converting := r :: c.converting }) (k.simpleByFirst (.object r) methods)

/-- The simple value of a value where a text is wanted. -/
def Kernel.simpleText (k : Kernel) (v : Value) : Run Value :=
  match v with
  | .object r => k.simpleBy r ["toString", "valueOf"] .emptyText
  | v => return v

/-- The simple value of a value where a number is wanted. -/
def Kernel.simpleNumber (k : Kernel) (v : Value) : Run Value :=
  match v with
  | .object r => k.simpleBy r ["valueOf", "toString"] (.number 0.0)
  | v => return v

/-- The simple value of a value where either will do; a date prefers its text. -/
def Kernel.simple (k : Kernel) (v : Value) : Run Value := do
  match v with
  | .object r =>
    match (← object r).shape with
    | .date _ => k.simpleText v
    | _ => k.simpleNumber v
  | v => return v

/-- The text of a simple value. -/
def textOfSimple : Value → CodeUnits
  | .undefined => "undefined"
  | .null => "null"
  | .bool true => "true"
  | .bool false => "false"
  | .number x => CodeUnits.ofString (Decimal.compact x)
  | .text s => s
  | .object _ => CodeUnits.empty

/-- The number of a simple value. -/
def numberOfSimple : Value → Float
  | .undefined => Number.nan
  | .null => 0.0
  | .bool true => 1.0
  | .bool false => 0.0
  | .number x => x
  | .text s => Number.ofText s
  | .object _ => Number.nan

/-- The text of a value. -/
def Kernel.toText (k : Kernel) (v : Value) : Run CodeUnits := return textOfSimple (← k.simpleText v)

/-- The number of a value. -/
def Kernel.toNumber (k : Kernel) (v : Value) : Run Float := return numberOfSimple (← k.simpleNumber v)

/-- The failure to set a property, which counts in strict mode alone. -/
def refuseWrite (isStrict : Bool) (key : Name) : Run Unit :=
  if isStrict then typeFault ("cannot set non-writable property: " ++ key.toText) else return ()

/-- The length that a value is, which has to be a whole number of a word. -/
def Kernel.lengthValue (k : Kernel) (v : Value) : Run Nat := do
  let n := Number.toWord (← k.toNumber v)
  let x ← k.toNumber v
  if Float.ofNat n.toNat == x then return n.toNat else fail .range "bad length for array"

/-- Sets the property of an object, or calls the function that stands for it. -/
def Kernel.put (k : Kernel) (r : Ref) (key : Name) (v : Value) (isStrict : Bool) : Run Unit := do
  let o ← object r
  match o.own? key with
  | some (.data _ isWritable e c) =>
    if !isWritable then refuseWrite isStrict key
    else if key == lengthKey && o.items?.isSome then
      let n ← k.lengthValue v
      modifyObject r (·.setLength n) (settles_setLength · n)
    else defineProperty r key (.data v true e c)
  | some (.accessor _ (some s) ..) => discard <| k.apply (.object s) (.object r) [v]
  | some (.accessor _ none ..) => refuseWrite isStrict key
  | none =>
    match ← findProperty r key with
    | some (.accessor _ (some s) ..) => discard <| k.apply (.object s) (.object r) [v]
    | some (.accessor _ none ..) => refuseWrite isStrict key
    | some (.data _ false ..) => refuseWrite isStrict key
    | _ => if o.takes key then defineProperty r key (.plain v) else refuseWrite isStrict key

/-- Sets the property of any value; a simple value has none that could be set, but a function may stand for one. -/
def Kernel.putOf (k : Kernel) (target : Value) (key : Name) (v : Value) (isStrict : Bool) : Run Unit := do
  match target with
  | .object r => k.put r key v isStrict
  | target =>
    match parentOfValue? target with
    | none => typeFault "cannot convert 'null' or 'undefined' to object"
    | some p =>
      match ← findProperty p key with
      | some (.accessor _ (some s) ..) => discard <| k.apply (.object s) target [v]
      | _ => refuseWrite isStrict key

/-- The text of an argument; a missing one is undefined. -/
def argument (args : List Value) (i : Nat) : Value := args[i]?.getD .undefined

/-- A value as a property key. -/
def Kernel.toKey (k : Kernel) (v : Value) : Run Name := k.toText v

/-- The length that an object gives for itself. -/
def Kernel.lengthOf (k : Kernel) (r : Ref) : Run Nat := do
  match (← object r).shape with
  | .array _ length => return length
  | _ =>
    let x := Number.toInteger (← k.toNumber (← k.property r lengthKey))
    return if x > 0.0 then (if x > 4294967295.0 then 4294967295 else x.toUInt64.toNat) else 0

/-- The item of an object at an index. -/
def Kernel.item (k : Kernel) (r : Ref) (i : Nat) : Run Value := do
  match (← object r).shape with
  | .array items _ =>
    match items[i]?.join with
    | some v => return v
    | none => k.property r (Obj.indexKey i)
  | _ => k.property r (Obj.indexKey i)

/-- The property of a value that is read by another value. -/
def Kernel.readIndex (k : Kernel) (o key : Value) : Run Value := do
  match o, key with
  | .object r, .number x =>
    match Number.indexOfFloat? x with
    | some i => k.item r i
    | none => k.property r (← k.toKey key)
  | o, key =>
    if o.isNullish then typeFault "cannot convert 'null' or 'undefined' to object"
    k.propertyOf o (← k.toKey key)

/-- The object has an item at an index, itself or from its parents. -/
def hasItem (r : Ref) (i : Nat) : Run Bool := do
  match (← object r).shape with
  | .array items _ =>
    if (items[i]?.join).isSome then return true
    else return (← findProperty r (Obj.indexKey i)).isSome
  | _ => return (← findProperty r (Obj.indexKey i)).isSome

/-- The items of an object in order. -/
def Kernel.itemsOf (k : Kernel) (r : Ref) : Run (List Value) := do
  let n ← k.lengthOf r
  (List.range n).mapM fun i => k.item r i

/-- The arguments that an object holds as its items; nothing holds none. -/
def Kernel.argumentsOf (k : Kernel) (v : Value) : Run (List Value) :=
  match v with
  | .object r => k.itemsOf r
  | .undefined => return []
  | .null => return []
  | _ => typeFault "CreateListFromArrayLike: argument is not an object"

/-- The object that a value has to be. -/
def needObject (v : Value) (fault : String) : Run Ref :=
  match v with
  | .object r => return r
  | _ => typeFault fault

/-- The object has a property, itself or from its parents. -/
def hasProperty (r : Ref) (key : Name) : Run Bool := return (← findProperty r key).isSome

/-! ### The outermost scope -/

/-- The value of a name in the outermost scope, which is the global object. -/
def Kernel.global? (k : Kernel) (x : Name) : Run (Option Value) := do
  match ← findProperty Intrinsic.global.ref x with
  | some p => return some (← k.readProperty (some p) (.object Intrinsic.global.ref))
  | none => return none

/-- A name was never declared. -/
def undeclared {α : Type} (x : Name) : Run α := fail .reference (x.toText ++ " is not defined")

/-- The value that a name has to have in the outermost scope. -/
def Kernel.global (k : Kernel) (x : Name) : Run Value := do
  match ← k.global? x with
  | some v => return v
  | none => undeclared x

/-- Calls a function of the outermost scope. -/
def Kernel.callGlobal (k : Kernel) (x : Name) (args : List Value) : Run Value := do
  k.apply (← k.global x) .undefined args

end Pagewalk.Script
