import Pagewalk.Script.Description
import Pagewalk.Script.Iteration
import Pagewalk.Script.Library.Inspection

/-!
# What objects do

The functions of the maker of objects, and those that all objects inherit.
-/

namespace Pagewalk.Script

open Text

/-! ### Descriptions as objects -/

/-- What an object says under a key, if it has a property of that key. -/
def Kernel.said? (k : Kernel) (d : Ref) (key : Name) : Run (Option Value) := do
  if ← hasProperty d key then return some (← k.property d key) else return none

/-- The function that an object describes for an accessor. -/
def Kernel.saidFunction? (k : Kernel) (d : Ref) (key : Name) (fault : String) : Run (Option (Option Ref)) := do
  match ← k.said? d key with
  | none => return none
  | some .undefined => return some none
  | some v => if ← isCallable v then return some v.ref? else typeFault fault

/-- The description that an object gives. -/
def Kernel.readDescription (k : Kernel) (v : Value) : Run Description := do
  let d ← needObject v "Cannot construct a property descriptor from a non-object"
  let isEnumerable := (← k.said? d "enumerable").map Value.isTruthy
  let isConfigurable := (← k.said? d "configurable").map Value.isTruthy
  let value ← k.said? d "value"
  let isWritable := (← k.said? d "writable").map Value.isTruthy
  let get ← k.saidFunction? d "get" "Property descriptor getter must be callable"
  let set ← k.saidFunction? d "set" "Property descriptor setter must be callable"
  let said : Description := { value, isWritable, get, set, isEnumerable, isConfigurable }
  if said.isOfAccessor && said.isOfData then
    typeFault "Invalid property descriptor. Cannot both specify accessors and a value or writable attribute"
  return said

/-- The object that gives the description of a property. -/
def writeDescription (p : Property) : Run Value := do
  let d ← makeObject
  let say (key : Name) (v : Value) : Run Unit := defineProperty d key (.plain v)
  match p with
  | .data v isWritable .. =>
    say "value" v
    say "writable" (.bool isWritable)
  | .accessor g s .. =>
    say "get" (g.elim .undefined .object)
    say "set" (s.elim .undefined .object)
  say "enumerable" (.bool p.isEnumerable)
  say "configurable" (.bool p.isConfigurable)
  return .object d

/-- Gives an object a property as described, which has to be allowed. The value of the length of an array has to be
one. -/
def Kernel.describeOrFail (k : Kernel) (r : Ref) (key : Name) (d : Description) : Run Unit := do
  let refused : Run Unit := typeFault ("cannot redefine property: " ++ key.toText)
  let length? ← match d.value with
    | some v => if key == lengthKey && (← object r).items?.isSome then some <$> k.lengthValue v else pure none
    | none => pure none
  match length? with
  | none => if !(← describe r key d) then refused
  | some n =>
    if !(← describe r key { d with value := some (.nat n) }) then refused
    modifyObject r (·.setLength n) (settles_setLength · n)

/-- The properties that an object describes, all of them set. -/
def Kernel.describeAll (k : Kernel) (r : Ref) (descriptions : Value) : Run Unit := do
  let d ← toObject descriptions
  let said ← (← enumerableKeys d).mapM fun key => do return (key, ← k.readDescription (← k.property d key))
  for (key, description) in said do
    k.describeOrFail r key description

/-! ### What objects inherit from -/

/-- Lets an object inherit from another, or from none; false if it would inherit from itself, or takes no changes. -/
def changeParent (r : Ref) (parent : Option Ref) : Run Bool := do
  let o ← object r
  if o.parent = parent then return true
  if !o.isOpen then return false
  match parent with
  | some p => if p = r || (← inheritsFrom ((← realm).objects.size + 1) p r) then return false
  | none => pure ()
  modifyObject r fun o => { o with parent := parent }
  return true

/-- What an object may inherit from: an object, or nothing. -/
def parentArgument? : Value → Option (Option Ref)
  | .object r => some (some r)
  | .null => some none
  | _ => none

/-- The accessor of a property, found along the line of parents. -/
def Kernel.accessorOf (k : Kernel) (this key : Value) (isGetter : Bool) : Run Value := do
  let r ← toObject this
  match ← findProperty r (← k.toKey key) with
  | some (.accessor g s ..) => return (if isGetter then g else s).elim .undefined .object
  | _ => return .undefined

/-! ### All functions of objects -/

/-- What the functions of objects do. -/
def Kernel.objectFunction (k : Kernel) (f : ObjectFunction) (this : Value) (args : List Value) : Run Value := do
  let first := argument args 0
  let second := argument args 1
  match f with
  | .make => if first.isNullish then return .object (← makeObject) else return .object (← toObject first)
  | .keys => makeArray ((← enumerableKeys (← toObject first)).map .text)
  | .values =>
    let r ← toObject first
    makeArray (← (← enumerableKeys r).mapM (k.property r))
  | .entries =>
    let r ← toObject first
    makeArray (← (← enumerableKeys r).mapM fun key => do makeArray [.text key, ← k.property r key])
  | .assign =>
    let r ← toObject first
    for source in args.drop 1 do
      if !source.isNullish then
        let s ← toObject source
        for key in ← enumerableKeys s do
          k.put r key (← k.property s key) true
    return .object r
  | .create =>
    match parentArgument? first with
    | none => typeFault ("Object prototype may only be an Object or null: " ++ (← shownText first))
    | some parent =>
      let r ← allocate (.ofShape parent .plain)
      match second with
      | .undefined => pure ()
      | d => k.describeAll r d
      return .object r
  | .define =>
    let r ← needObject first "Object.defineProperty called on non-object"
    let key ← k.toKey second
    k.describeOrFail r key (← k.readDescription (argument args 2))
    return first
  | .defineAll =>
    let r ← needObject first "Expected an object"
    k.describeAll r second
    return first
  | .parent => return ((← object (← toObject first)).parent).elim .null .object
  | .setParent =>
    if args.length < 2 then
      typeFault ("Object.setPrototypeOf: At least 2 arguments required, but only " ++ toString args.length ++ " passed")
    if first.isNullish then typeFault "cannot convert null or undefined to Object"
    match parentArgument? second, first with
    | none, _ => typeFault ("expected an object or null, got \x60" ++ (← typeName second) ++ "\x60")
    | some parent, .object r =>
      if !(← changeParent r parent) then typeFault "can't set prototype of this object"
      return first
    | _, _ => return first
  | .names => makeArray ((← object (← toObject first)).keys.map .text)
  | .same => return .bool (first.same second)
  | .close frozen =>
    match first with
    | .object r => closeObject r frozen
    | _ => pure ()
    return first
  | .isClosed frozen =>
    match first with
    | .object r => return .bool ((← object r).isClosed frozen)
    | _ => return .bool true
  | .seal =>
    match first with
    | .object r => sealObject r
    | _ => pure ()
    return first
  | .isOpen =>
    match first with
    | .object r => return .bool (← object r).isOpen
    | _ => return .bool false
  | .description =>
    let r ← toObject first
    match (← object r).own? (← k.toKey second) with
    | some p => writeDescription p
    | none => return .undefined
  | .descriptions =>
    let r ← toObject first
    let all ← makeObject
    for key in (← object r).keys do
      match (← object r).own? key with
      | some p => defineProperty all key (.plain (← writeDescription p))
      | none => pure ()
    return .object all
  | .ofEntries =>
    if first.isNullish then typeFault "cannot convert null or undefined to Object"
    let r ← makeObject
    k.forEachItem (← itemsIn first) fun _ entry => do
      let e ← needObject entry "cannot get key and value from primitive item of \x60iterable\x60"
      let key ← k.property e "0"
      let v ← k.property e "1"
      defineProperty r (← k.toKey key) (.plain v)
    return .object r
  | .owns =>
    let r ← toObject first
    return .bool ((← object r).own? (← k.toKey second)).isSome
  | .hasOwn =>
    let key ← k.toKey first
    return .bool ((← object (← toObject this)).own? key).isSome
  | .isSeen =>
    let key ← k.toKey first
    return .bool (((← object (← toObject this)).own? key).any Property.isEnumerable)
  | .text => return .string (← kindText this)
  | .localText => k.invoke this "toString" []
  | .value => return .object (← toObject this)
  | .isParentOf =>
    match first with
    | .object r => return .bool (← inheritsFrom ((← realm).objects.size + 1) r (← toObject this))
    | _ => return .bool false
  | .parentProperty => return ((← object (← toObject this)).parent).elim .null .object
  | .setParentProperty =>
    let refused : Run Unit := typeFault "__proto__ called on null or undefined"
    if this.isNullish then refused
    match this, parentArgument? first with
    | .object r, some parent => if !(← changeParent r parent) then refused
    | _, _ => pure ()
    return .undefined
  | .defineAccessor isGetter =>
    let r ← toObject this
    if !(← isCallable second) then
      typeFault (if isGetter then "Object.prototype.__defineGetter__: Expecting function"
        else "Object.prototype.__defineSetter__: Expecting function")
    let d : Description := { isEnumerable := some true, isConfigurable := some true }
    k.describeOrFail r (← k.toKey first)
      (if isGetter then { d with get := some second.ref? } else { d with set := some second.ref? })
    return .undefined
  | .accessor isGetter => k.accessorOf this first isGetter

end Pagewalk.Script
