import Pagewalk.Script.Number
import Pagewalk.Script.Step

/-!
# Objects of a realm

The steps by which a script reads and changes the objects of its realm without calling any function: objects are
made, properties are found along the line of parents, set and taken away, and errors are thrown. An array keeps its
first items apart from its properties.
-/

namespace Pagewalk.Script

open Text

/-- The objects that every realm begins with. -/
inductive Intrinsic where
  | global
  | objects
  | functions
  | arrays
  | texts
  | numbers
  | bools
  | promises
  | dates
  | nodes
  /-- The functions that read the document by numbers. -/
  | bridge
  /-- The object through which the console writes. -/
  | writer
  /-- The function that gives the wrapper of a node. -/
  | wrapper
  /-- The function that makes wrappers. -/
  | nodeMaker
  /-- The maker of promises. -/
  | promiseMaker
  /-- The function that refuses to tell who calls a function. -/
  | callerRefuser
  | errors (kind : ErrorKind)
  /-- The array in which the wrappers of nodes are kept, by the numbers of the nodes. -/
  | cache
  deriving DecidableEq, Repr

/-- Where an intrinsic object stands. -/
def Intrinsic.ref : Intrinsic → Ref
  | global => 0
  | objects => 1
  | functions => 2
  | arrays => 3
  | texts => 4
  | numbers => 5
  | bools => 6
  | promises => 7
  | dates => 8
  | nodes => 9
  | bridge => 10
  | writer => 11
  | wrapper => 12
  | nodeMaker => 13
  | promiseMaker => 14
  | callerRefuser => 15
  | errors .error => 16
  | errors .type => 17
  | errors .range => 18
  | errors .malformed => 19
  | errors .reference => 20
  | errors .evaluation => 21
  | errors .address => 22
  | errors .aggregate => 23
  | cache => 24

/-- The number of intrinsic objects. -/
def Intrinsic.count : Nat := 25

/-- Keys that are looked for by name. -/
def lengthKey : Name := "length"

/-- The key of the name of a function. -/
def nameKey : Name := "name"

/-- The key of the text of an error. -/
def messageKey : Name := "message"

/-- The key of the object from which what a function makes inherits. -/
def parentKey : Name := "prototype"

/-! ### Objects by themselves -/

namespace Obj

/-- The key that an index is. -/
def indexKey (i : Nat) : Name := CodeUnits.ofString (toString i)

/-- The object without a property. -/
def removeProperty (o : Obj) (key : Name) : Obj :=
  if o.properties.contains key then
    { o with properties := o.properties.erase key, order := o.order.filter (· != key) }
  else o

/-- The items of an array. -/
def items? (o : Obj) : Option (Array (Option Value)) :=
  match o.shape with
  | .array items _ => some items
  | _ => none

/-- All items of an array that has no others and takes all changes. -/
def ownItems? (o : Obj) : Option (Array (Option Value)) :=
  match o.shape with
  | .array items length => if items.size = length && o.isOpen && o.isLengthOpen then some items else none
  | _ => none

/-- The property that an array or a text has of its own accord. -/
def inherent? (o : Obj) (key : Name) : Option Property :=
  match o.shape with
  | .array items length =>
    match Number.index? key with
    | some i => (items[i]?.join).map .plain
    | none => if key == lengthKey then some (.data (.nat length) o.isLengthOpen false false) else none
  | .boxed (.text s) =>
    match Number.index? key with
    | some i => if i < s.size then some (.data (.text (s.slice i (i + 1))) false true false) else none
    | none => if key == lengthKey then some (.data (.nat s.size) false false false) else none
  | _ => none

/-- The property of an object itself. -/
def own? (o : Obj) (key : Name) : Option Property :=
  match o.inherent? key with
  | some p => some p
  | none => o.properties[key]?

/-- The parts of a record are as they were made. -/
def isRecord (o : Obj) : Bool :=
  match o.shape with
  | .plain =>
    ["settled", "ok", "value", "error"].all fun part =>
      match o.own? part with
      | some (.data _ true true true) => true
      | _ => false
  | _ => false

/-- The object can be called. -/
def isCallable (o : Obj) : Bool :=
  match o.shape with
  | .closure .. => true
  | .native .. => true
  | .bound .. => true
  | _ => false

/-- The indices and other keys that an array or a text has of its own accord. -/
def inherentKeys (o : Obj) : List Nat × List Name :=
  match o.shape with
  | .array items _ => ((List.range items.size).filter fun i => items[i]?.join.isSome, [lengthKey])
  | .boxed (.text s) => (List.range s.size, [lengthKey])
  | _ => ([], [])

/-- The keys of an object: indices in rising order, then the others as they were set. -/
def keys (o : Obj) : List Name :=
  let (indices, others) := o.inherentKeys
  let numbered := (o.order.toList.filterMap Number.index?).mergeSort (· ≤ ·)
  -- The items stand in rising order by themselves.
  let all := if numbered.isEmpty then indices else (indices ++ numbered).mergeSort (· ≤ ·)
  all.map indexKey ++ others ++ o.order.toList.filter fun k => (Number.index? k).isNone

/-- How far after the first items of an array another one may stand that is kept with them. -/
def maxGap : Nat := 1024

/-- The object with a property as an array keeps it: a plain one as an item if it does not stand far after the
others. The length grows with the greatest index. -/
def setItem (o : Obj) (items : Array (Option Value)) (length i : Nat) (p : Property) : Obj :=
  let length := max length (i + 1)
  match p with
  | .data v true true true =>
    if i < items.size then { o.removeProperty (indexKey i) with shape := .array (items.set! i (some v)) length }
    -- The places between are left out.
    else if i ≤ items.size + maxGap then
      { o.removeProperty (indexKey i) with
        shape := .array ((items ++ Array.replicate (i - items.size) none).push (some v)) length }
    else { o.setProperty (indexKey i) p with shape := .array items length }
  -- Any other property stands apart, and no item in its place.
  | p => { o.setProperty (indexKey i) p with shape := .array (items.setIfInBounds i none) length }

/-- The object with a property of its own. Of the length of an array only whether it can be set is kept. -/
def define (o : Obj) (key : Name) (p : Property) : Obj :=
  match o.shape, Number.index? key with
  | .array items length, some i => o.setItem items length i p
  | .array .., none =>
    if key == lengthKey then
      match p with
      | .data _ isWritable .. => { o with isLengthOpen := isWritable }
      | .accessor .. => o
    else o.setProperty key p
  | _, _ => o.setProperty key p

/-- The object can get a property that it does not have. -/
def takes (o : Obj) (key : Name) : Bool :=
  o.isOpen &&
    match o.shape, Number.index? key with
    | .array _ length, some i => o.isLengthOpen || i < length
    | _, _ => true

/-- The object with another length, if it is an array: items after that are taken away. -/
def setLength (o : Obj) (n : Nat) : Obj :=
  match o.shape with
  | .array items length =>
    let o := { o with shape := .array (if n < items.size then items.shrink n else items) n }
    if n < length then
      (o.order.filter fun k => (Number.index? k).any (n ≤ ·)).foldl Obj.removeProperty o
    else o
  | _ => o

/-- The index at which the arguments of a call have the name of a parameter. -/
def linkTo? (o : Obj) (x : Name) : Option Nat :=
  match o.shape with
  | .arguments _ linked => linked.findIdx? (· == some x)
  | _ => none

/-- The parameter to which an index of the arguments of a call is linked, with its scope. -/
def link? (o : Obj) (key : Name) : Option (ScopeRef × Name) :=
  match o.shape with
  | .arguments s linked => (Number.index? key).bind fun i => (linked[i]?.join).map fun x => (s, x)
  | _ => none

/-- The arguments of a call with an index that is not linked any more. -/
def unlink (o : Obj) (key : Name) : Obj :=
  match o.shape, Number.index? key with
  | .arguments s linked, some i => { o with shape := .arguments s (linked.setIfInBounds i none) }
  | _, _ => o

/-- The object without a property of its own, be it an item or linked to a name. -/
def forget (o : Obj) (key : Name) : Obj :=
  match o.shape, Number.index? key with
  | .array items length, some i => { o.removeProperty key with shape := .array (items.setIfInBounds i none) length }
  | _, _ => (o.unlink key).removeProperty key

/-- An array with other items; no other object has items. -/
def withItems (o : Obj) (items : Array (Option Value)) : Obj :=
  match o.shape with
  | .array .. => { o with shape := .array items items.size }
  | _ => o

/-- A promise that stands otherwise; no other object is one. -/
def withPromise (o : Obj) (s : PromiseState) : Obj :=
  match o.shape with
  | .promise _ => { o with shape := .promise s }
  | _ => o

end Obj

/-! ### Changes of objects

None of them changes what a function settles. -/

section Settling
variable (o : Obj) (key : Name) (p : Property)

theorem shape_removeProperty : (o.removeProperty key).shape = o.shape := by
  rw [Obj.removeProperty]
  split <;> rfl

theorem settles_define : (o.define key p).shape.settles? = o.shape.settles? := by
  unfold Obj.define
  split
  next items length i array _ =>
    rw [array, Obj.setItem.eq_def]
    split
    next =>
      dsimp only
      split
      · rfl
      · split <;> rfl
    next => rfl
  next array _ =>
    split
    · split <;> rfl
    · rw [shape_setProperty]
  next => rw [shape_setProperty]

theorem settles_setLength (n : Nat) : (o.setLength n).shape.settles? = o.shape.settles? := by
  have folded (ks : List Name) (o : Obj) : (ks.foldl Obj.removeProperty o).shape = o.shape := by
    induction ks generalizing o with
    | nil => rfl
    | cons k ks ih => exact (ih _).trans (shape_removeProperty o k)
  unfold Obj.setLength
  split
  next items length array =>
    rw [array]
    dsimp only
    split
    · rw [← Array.foldl_toList, folded]
      rfl
    · rfl
  next => rfl

theorem settles_unlink : (o.unlink key).shape.settles? = o.shape.settles? := by
  unfold Obj.unlink
  split
  next arguments _ =>
    rw [arguments]
    rfl
  next => rfl

theorem settles_forget : (o.forget key).shape.settles? = o.shape.settles? := by
  unfold Obj.forget
  split
  next array _ =>
    rw [array]
    rfl
  next => rw [shape_removeProperty, settles_unlink]

theorem settles_withItems (items : Array (Option Value)) : (o.withItems items).shape.settles? = o.shape.settles? := by
  unfold Obj.withItems
  split
  next array =>
    rw [array]
    rfl
  next => rfl

theorem settles_withPromise (s : PromiseState) : (o.withPromise s).shape.settles? = o.shape.settles? := by
  unfold Obj.withPromise
  split
  next promise =>
    rw [promise]
    rfl
  next => rfl

end Settling

/-! ### Steps -/

/-- The running realm. -/
def realm : Run Realm := ⟨.realm, .realm⟩

/-- Changes the running realm, but not its timers. -/
def modifyRealm (f : Realm → Realm) (upholds : ∀ m : Realm, m.Upholds (f m) := by exact fun _ => .of_objects rfl rfl) :
    Run Unit := ⟨.change f, .change f upholds⟩

/-- Enters something into a record as if it was as it was made. -/
def enterPlain (record : Ref) (e : Entry) : Run Unit := ⟨.enter record e, .enter record e⟩

/-- Does something to the timers of the running realm. -/
def onTimers (d : Timers.Deed Float Task) : Run Unit := ⟨.timers d, .timers d⟩

/-- Writes a record to the log, which may be watched. -/
def note (r : Log.Record) : Run Unit := ⟨.record r, .record r⟩

/-- Makes an object. -/
def allocate (o : Obj) (plain : o.shape.settles? = none := by rfl) : Run Ref := do
  let r := (← realm).objects.size
  modifyRealm (fun m => { m with objects := m.objects.push o }) (Realm.upholds_push plain)
  return r

/-- The object that stands there. -/
def object (r : Ref) : Run Obj := return (← realm).objects[r]?.getD default

/-- Changes an object. -/
def modifyObject (r : Ref) (f : Obj → Obj)
    (settles : ∀ o, (f o).shape.settles? = o.shape.settles? := by exact fun _ => rfl) : Run Unit :=
  modifyRealm (fun m => { m with objects := m.objects.modify r f }) fun m => Realm.upholds_modify settles m r

/-- Sets a property of an object as it is, whatever is linked to it. -/
def setOwn (r : Ref) (key : Name) (p : Property) : Run Unit :=
  modifyObject r (·.setProperty key p) fun o => congrArg Shape.settles? (shape_setProperty o key p)

/-- From now on an object takes no more properties. -/
def sealObject (r : Ref) : Run Unit := modifyObject r fun o => { o with isOpen := false }

/-- Sets a name of a scope. -/
def setSlot (s : ScopeRef) (x : Name) (slot : Slot) : Run Unit :=
  modifyRealm fun m => { m with scopes := m.scopes.modify s fun c => { c with slots := c.slots.insert x slot } }

/-- Sets a property of an object itself. What is linked to a name gives it its value, and is linked no more unless it
can be written. -/
def defineProperty (r : Ref) (key : Name) (p : Property) : Run Unit := do
  match (← object r).link? key with
  | some (s, x) =>
    match p with
    | .data v isWritable .. =>
      setSlot s x ⟨some v, .mutable⟩
      if !isWritable then modifyObject r (·.unlink key) (settles_unlink · key)
    | .accessor .. => modifyObject r (·.unlink key) (settles_unlink · key)
  | none => pure ()
  modifyObject r (·.define key p) (settles_define · key p)

/-- Throws a value. -/
def throwValue {α : Type} (v : Value) : Run α := throw (.thrown v)

/-- Makes an error. -/
def makeError (kind : ErrorKind) (message : String) : Run Value := do
  let o := (Obj.ofShape (some (Intrinsic.errors kind).ref) .error).setProperty messageKey
    (.hidden (.string message))
  return .object (← allocate o (by rw [shape_setProperty]; rfl))

/-- Throws an error. -/
def fail {α : Type} (kind : ErrorKind) (message : String) : Run α := do throwValue (← makeError kind message)

/-- Throws an error about a type. -/
def typeFault {α : Type} (message : String) : Run α := fail .type message

/-- Makes a plain object. -/
def makeObject : Run Ref := allocate (.ofShape (some Intrinsic.objects.ref) .plain)

/-- Makes an array of items, some of which may be left out. -/
def makeItems (items : Array (Option Value)) : Run Value :=
  return .object (← allocate (.ofShape (some Intrinsic.arrays.ref) (.array items items.size)))

/-- Makes an array. -/
def makeArray (items : List Value) : Run Value := makeItems (items.map some).toArray

/-- A function of some shape as an object. -/
def functionObject (shape : Shape) (name : Name) (arity : Nat) : Obj :=
  ((Obj.ofShape (some Intrinsic.functions.ref) shape).setProperty lengthKey
    (.data (.nat arity) false false true)).setProperty nameKey (.data (.text name) false false true)

theorem shape_functionObject (shape : Shape) (name : Name) (arity : Nat) :
    (functionObject shape name arity).shape = shape := by
  rw [functionObject, shape_setProperty, shape_setProperty]
  rfl

/-- A function with the object from which what it makes inherits. -/
def makerObject (f : Obj) (parent : Ref) : Obj := f.setProperty parentKey (.data (.object parent) true false false)

/-- The key under which an object knows the function that made it. -/
def constructorKey : Name := "constructor"

/-- The object from which what a function makes inherits, as it is at first. -/
def parentObject (f : Ref) : Obj :=
  (Obj.ofShape (some Intrinsic.objects.ref) .plain).setProperty constructorKey (.hidden (.object f))

/-- For each of so many arguments the parameter that it gives its value; of parameters of one name the last counts. -/
def linksOf (params : List Name) (count : Nat) : Array (Option Name) :=
  ((params.take count).zipIdx.map fun (x, i) => if (params.drop (i + 1)).contains x then none else some x).toArray

/-- The key of the function that is called, among its arguments. -/
def calleeKey : Name := "callee"

/-- The object of the arguments of a call of a function, in whose scope the parameters are linked to them. -/
def argumentsObject (args : List Value) (called : Ref) (scope : ScopeRef) (params : List Name) : Run Ref := do
  let r ← allocate (.ofShape (some Intrinsic.objects.ref) (.arguments scope (linksOf params args.length)))
  for (v, i) in args.zipIdx do
    setOwn r (Obj.indexKey i) (.plain v)
  defineProperty r lengthKey (.hidden (.nat args.length))
  defineProperty r calleeKey (.hidden (.object called))
  return r

/-- The object of the arguments of a call of a strict function, which are linked to nothing. -/
def strictArguments (args : List Value) : Run Ref := do
  let r ← allocate (.ofShape (some Intrinsic.objects.ref) (.arguments 0 #[]))
  for (v, i) in args.zipIdx do
    setOwn r (Obj.indexKey i) (.plain v)
  defineProperty r lengthKey (.hidden (.nat args.length))
  let refuser := some Intrinsic.callerRefuser.ref
  defineProperty r calleeKey (.accessor refuser refuser false false)
  return r

/-- The fault of asking who calls a function. -/
def callerFault : String :=
  "'caller', 'callee', and 'arguments' properties may not be accessed on strict mode functions or the arguments " ++
    "objects for calls to them"

/-- A built-in function as an object. -/
def nativeObject (n : Native) (name : String) (arity : Nat) (isMaker : Bool) : Obj :=
  functionObject (.native n isMaker) (CodeUnits.ofString name) arity

/-- Puts a function into the realm that makes objects. -/
def allocateMaker (f : Obj) (plain : f.shape.settles? = none := by rfl) : Run Ref := do
  let parent ← makeObject
  let r ← allocate (makerObject f parent) ((congrArg Shape.settles? (shape_setProperty ..)).trans plain)
  setOwn parent constructorKey (.hidden (.object r))
  return r

/-- Makes a built-in function. -/
def makeNative (n : Native) (name : String) (arity : Nat)
    (plain : ∀ isMaker, (Shape.native n isMaker).settles? = none := by exact fun _ => rfl) : Run Value := do
  have settles (isMaker : Bool) : (nativeObject n name arity isMaker).shape.settles? = none := by
    rw [nativeObject, shape_functionObject, plain]
  match n.registers? with
  | some _ => return .object (← allocateMaker (nativeObject n name arity true) (settles true))
  | none => return .object (← allocate (nativeObject n name arity false) (settles false))

/-- Makes a function that does nothing. -/
def makeIdle (name : String) : Run Value := makeNative (.environment .idle) name 0

/-- A value is a function. -/
def isCallable (v : Value) : Run Bool :=
  match v with
  | .object r => return (← object r).isCallable
  | _ => return false

/-- A small number that functions share. -/
def newCell (n : Nat) : Run Nat := do
  let c := (← realm).cells.size
  modifyRealm fun m => { m with cells := m.cells.push n }
  return c

/-- What a cell holds. -/
def readCell (c : Nat) : Run Nat := return (← realm).cells[c]?.getD 0

/-- Puts a number into a cell. -/
def writeCell (c n : Nat) : Run Unit := modifyRealm fun m => { m with cells := m.cells.setIfInBounds c n }

/-- Looks for a property along the line of parents, of which there are at most so many. -/
def findFrom : Nat → Ref → Name → Run (Option Property)
  | 0, _, _ => return none
  | n + 1, r, key => do
    let o ← object r
    match o.own? key with
    | some p => return some p
    | none =>
      match o.parent with
      | none => return none
      | some up => findFrom n up key

/-- The property that an object has itself or from its parents. -/
def findProperty (r : Ref) (key : Name) : Run (Option Property) := do
  findFrom ((← realm).objects.size + 1) r key

/-- An object is in another's line of parents, which has at most so many. -/
def inheritsFrom : Nat → Ref → Ref → Run Bool
  | 0, _, _ => return false
  | n + 1, r, wanted => do
    match (← object r).parent with
    | none => return false
    | some up => if up = wanted then return true else inheritsFrom n up wanted

/-- The object in which the properties of a simple value are looked for. -/
def parentOfValue? : Value → Option Ref
  | .undefined => none
  | .null => none
  | .bool _ => some Intrinsic.bools.ref
  | .number _ => some Intrinsic.numbers.ref
  | .text _ => some Intrinsic.texts.ref
  | .object r => some r

/-- A value as an object; a simple value is put into one. -/
def toObject (v : Value) : Run Ref :=
  match v with
  | .object r => return r
  | v =>
    match parentOfValue? v with
    | none => typeFault "cannot convert 'null' or 'undefined' to object"
    | some p => allocate (.ofShape (some p) (.boxed v))

/-- Takes a property away; false if it may not be. -/
def deleteProperty (r : Ref) (key : Name) : Run Bool := do
  let o ← object r
  match o.own? key with
  | none => return true
  | some p =>
    if !p.isConfigurable then return false
    modifyObject r (·.forget key) (settles_forget · key)
    return true

/-- The keys of an object that are met when its properties are gone through. -/
def enumerableKeys (r : Ref) : Run (List Name) := do
  let o ← object r
  return o.keys.filter fun k => ((o.own? k).map Property.isEnumerable).getD false

end Pagewalk.Script
