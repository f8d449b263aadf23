import Pagewalk.Script.Iteration

/-!
# What arrays do

The methods of arrays. They work on any object with a length, whose items are looked for as each is reached. Methods
that change the items take all of them out, and put back what becomes of them.
-/

namespace Pagewalk.Script

open Text

/-- The function among the arguments that is called for each item. -/
def callback (args : List Value) (fault : String) : Run Value := do
  let f := argument args 0
  if ← isCallable f then return f else typeFault fault

/-- The item of an object at an index, if it is there. -/
def Kernel.item? (k : Kernel) (r : Ref) (i : Nat) : Run (Option Value) := do
  if ← hasItem r i then return some (← k.item r i) else return none

/-- Takes a property away that has to go. -/
def removeOrFail (r : Ref) (key : Name) : Run Unit := do
  if !(← deleteProperty r key) then typeFault ("cannot delete property: " ++ key.toText)

/-- Puts back the items of an object of which so many are known. -/
def Kernel.putBack (k : Kernel) (r : Ref) (old new : Array (Option Value)) : Run Unit := do
  for i in List.range (max old.size new.size) do
    match new[i]?.join with
    | some v => k.put r (Obj.indexKey i) v true
    | none => removeOrFail r (Obj.indexKey i)
  k.put r lengthKey (.nat new.size) true

/-- Changes the items of an object. -/
def Kernel.changeItems {α : Type} (k : Kernel) (r : Ref)
    (f : Array (Option Value) → α × Array (Option Value)) : Run α := do
  let o ← object r
  match o.ownItems? with
  | some items =>
    let (a, items) := f items
    modifyObject r (·.withItems items) (settles_withItems · items)
    return a
  | none =>
    let items := (← (List.range (← k.lengthOf r)).mapM (k.item? r)).toArray
    let (a, new) := f items
    k.putBack r items new
    return a

/-- The items of an object that are there, with their indices. -/
def Kernel.present (k : Kernel) (r : Ref) : Run (List (Nat × Value)) := do
  let n ← k.lengthOf r
  (List.range n).filterMapM fun i => return (← k.item? r i).map fun v => (i, v)

/-- The first index from which a search goes on. -/
def Kernel.searchStart (k : Kernel) (args : List Value) (n : Nat) : Run Nat := do
  return Number.relativePlace (← k.toNumber (argument args 1)) n

/-- The place of an argument; where it is missing, a place given for that. -/
def Kernel.placeOr (k : Kernel) (v : Value) (n missing : Nat) : Run Nat :=
  match v with
  | .undefined => return missing
  | v => return Number.relativePlace (← k.toNumber v) n

/-- The text of an item among others; nothing for what stands for nothing. -/
def Kernel.itemText (k : Kernel) (v : Value) : Run CodeUnits :=
  if v.isNullish then return CodeUnits.empty else k.toText v

/-! ### Order -/

/-- An item comes before another: as a function says, or by their texts, and what is undefined last. -/
def Kernel.isBefore (k : Kernel) (f a b : Value) : Run Bool := do
  match a, b with
  | .undefined, _ => return false
  | _, .undefined => return true
  | a, b =>
    match f with
    | .undefined =>
      let s ← k.toText a
      return s.lt (← k.toText b)
    | f => return (← k.toNumber (← k.apply f .undefined [a, b])) < 0.0

/-- Puts an item in front of the first that it does not come before; the items are in falling order. -/
def Kernel.placeItem (k : Kernel) (f v : Value) : List Value → Run (List Value)
  | [] => return [v]
  | w :: ws => do
    if ← k.isBefore f v w then return w :: (← k.placeItem f v ws)
    return v :: w :: ws

/-- Few items in order. -/
def Kernel.placedInOrder (k : Kernel) (f : Value) (vs : List Value) : Run (List Value) := do
  let mut falling : List Value := []
  for v in vs do
    falling ← k.placeItem f v falling
  return falling.reverse

/-- Two lists in order joined to one in front of items in falling order; so many items are in both. -/
def Kernel.merged (k : Kernel) (f : Value) : Nat → List Value → List Value → List Value → Run (List Value)
  | n + 1, v :: vs, w :: ws, falling => do
    if ← k.isBefore f w v then k.merged f n (v :: vs) ws (w :: falling) else k.merged f n vs (w :: ws) (v :: falling)
  | _, vs, ws, falling => return falling.reverse ++ vs ++ ws

/-- The items in order; those that neither comes before the other stay as they stood. The halves of many items are put
in order by themselves, at most so often. -/
def Kernel.sorted (k : Kernel) (f : Value) : Nat → List Value → Run (List Value)
  | 0, vs => return vs
  | n + 1, vs => do
    if vs.length ≤ 20 then return ← k.placedInOrder f vs
    let half := vs.length / 2
    let first ← k.sorted f n (vs.take half)
    k.merged f vs.length first (← k.sorted f n (vs.drop half)) []

/-- The items of an object in the order that an argument asks for. -/
def Kernel.itemsInOrder (k : Kernel) (f : Value) (vs : List Value) : Run (List Value) := k.sorted f vs.length vs

/-- What tells the order of items has to be a function, if it is given. -/
def orderArgument (v : Value) : Run Unit := do
  match v with
  | .undefined => return ()
  | v => if !(← isCallable v) then typeFault "The comparison function must be either a function or undefined"

/-! ### Going over items -/

/-- Goes over the items at some indices and joins each that is there to what there is so far; the first is the start
if there is none yet. -/
def Kernel.fold (k : Kernel) (f : Value) (r : Ref) : List Nat → Option Value → Run (Option Value)
  | [], acc? => return acc?
  | i :: is, acc? => do
    match ← k.item? r i, acc? with
    | none, acc? => k.fold f r is acc?
    | some v, none => k.fold f r is (some v)
    | some v, some acc => k.fold f r is (some (← k.apply f .undefined [acc, v, .nat i, .object r]))

/-- Joins the items at some indices. -/
def Kernel.reduce (k : Kernel) (name : String) (args : List Value) (r : Ref) (indices : List Nat) : Run Value := do
  let f ← callback args (name ++ ": callback function is not callable")
  match ← k.fold f r indices args[1]? with
  | some v => return v
  | none => typeFault (name ++ ": called on an empty array and with no initial value")

/-- The first of some indices for whose item a function holds, with the item. Only items that are there count, unless
all do. -/
def Kernel.firstFor (k : Kernel) (f this : Value) (r : Ref) (all : Bool) : List Nat → Run (Option (Nat × Value))
  | [] => return none
  | i :: is => do
    let item? ← if all then some <$> k.item r i else k.item? r i
    match item? with
    | none => k.firstFor f this r all is
    | some v =>
      if (← k.apply f this [v, .nat i, .object r]).isTruthy then return some (i, v)
      k.firstFor f this r all is

/-- The most arrays in one another that are taken out. -/
def maxFlatDepth : Nat := 1000

/-- The items of an array with those of the arrays in it, as deep as wanted. -/
def Kernel.flattened (k : Kernel) : (depth : Nat) → List Value → Run (List Value)
  | 0, vs => return vs
  | n + 1, vs => do
    let parts ← vs.mapM fun v => do
      match v with
      | .object r =>
        if (← object r).items?.isSome then k.flattened n ((← k.present r).map (·.2)) else return [v]
      | v => return [v]
    return parts.flatten

/-- The values that a function gives for the items that are there. -/
def Kernel.mapped (k : Kernel) (f this : Value) (r : Ref) : Run (List (Option Value)) := do
  (List.range (← k.lengthOf r)).mapM fun i => do
    match ← k.item? r i with
    | none => return none
    | some v => return some (← k.apply f this [v, .nat i, .object r])

/-- The index at which a search backwards begins, and one more. -/
def Kernel.searchStop (k : Kernel) (args : List Value) (n : Nat) : Run Nat := do
  match args[1]? with
  | none => return n
  | some v =>
    let x := Number.toInteger (← k.toNumber v)
    if x < 0.0 then
      let m := n.toFloat + x + 1.0
      return if m > 0.0 then m.toUInt64.toNat else 0
    return if x ≥ n.toFloat then n else x.toUInt64.toNat + 1

/-- An array of the items that there are in a value, each as a function gives it if there is one. -/
def Kernel.arrayFrom (k : Kernel) (items f this : Value) : Run Value := do
  let isMapped ← match f with
    | .undefined => pure false
    | f =>
      if !(← isCallable f) then typeFault ("\x60" ++ (← typeName f) ++ "\x60 is not callable")
      pure true
  let made ← makeArray []
  let give (i : Nat) (v : Value) : Run Unit := do
    let v ← if isMapped then k.apply f this [v, .nat i] else pure v
    match made with
    | .object r => defineProperty r (Obj.indexKey i) (.plain v)
    | _ => return ()
  if ← isIterable items then k.forEachItem (← itemsIn items) give
  else
    let r ← toObject items
    for i in List.range (← k.lengthOf r) do
      give i (← k.item r i)
  return made

/-! ### All methods -/

/-- What a method of arrays does. -/
def ArrayMethod.run (k : Kernel) (m : ArrayMethod) (this : Value) (args : List Value) : Run Value := do
  let r ← toObject this
  let whole := Value.object r
  let other := argument args 1
  match m with
  | .push =>
    let n ← k.lengthOf r
    for (v, i) in args.zipIdx n do
      k.put r (Obj.indexKey i) v true
    k.put r lengthKey (.nat (n + args.length)) true
    return .nat (n + args.length)
  | .pop =>
    match ← k.lengthOf r with
    | 0 =>
      k.put r lengthKey (.nat 0) true
      return .undefined
    | n + 1 =>
      let v ← k.item r n
      removeOrFail r (Obj.indexKey n)
      k.put r lengthKey (.nat n) true
      return v
  | .shift => k.changeItems r fun items => ((items[0]?.join).getD .undefined, items.extract 1 items.size)
  | .unshift => k.changeItems r fun items => let all := (args.map some).toArray ++ items; (.nat all.size, all)
  | .at =>
    let n ← k.lengthOf r
    let x := Number.toInteger (← k.toNumber (argument args 0))
    match Number.indexOfFloat? (if x < 0.0 then n.toFloat + x else x) with
    | some i => if i < n then k.item r i else return .undefined
    | none => return .undefined
  | .slice =>
    let n ← k.lengthOf r
    let start ← k.placeOr (argument args 0) n 0
    let stop ← k.placeOr other n n
    makeItems (← ((List.range n).drop start |>.take (stop - start)).mapM (k.item? r)).toArray
  | .splice =>
    let n ← k.lengthOf r
    let start ← k.placeOr (argument args 0) n 0
    let count ← match args with
      | [] => pure 0
      | [_] => pure (n - start)
      | _ :: c :: _ => pure (min (Number.clampPlace (← k.toNumber c) n) (n - start))
    let removed ← k.changeItems r fun items =>
      (items.extract start (start + count),
        items.extract 0 start ++ ((args.drop 2).map some).toArray ++ items.extract (start + count) items.size)
    makeItems removed
  | .concat =>
    let mut all : Array (Option Value) := #[]
    for v in whole :: args do
      match v with
      | .object q =>
        if (← object q).items?.isSome then
          all := all ++ (← (List.range (← k.lengthOf q)).mapM (k.item? q)).toArray
        else all := all.push (some v)
      | v => all := all.push (some v)
    makeItems all
  | .join =>
    let n ← k.lengthOf r
    let separator ← match argument args 0 with
      | .undefined => pure (CodeUnits.ofString ",")
      | v => k.toText v
    return .text (CodeUnits.join separator (← (List.range n).mapM fun i => do k.itemText (← k.item r i)))
  | .toText =>
    let f ← k.property r "join"
    if ← isCallable f then k.apply f whole [] else return .string (← kindText whole)
  | .reverse =>
    k.changeItems r fun items => ((), items.reverse)
    return whole
  | .reversed => makeArray (← k.itemsOf r).reverse
  | .indexOf =>
    let n ← k.lengthOf r
    let start ← k.searchStart args n
    let found := ((← k.present r).filter fun (i, _) => start ≤ i).find? fun (_, v) => v.strictEq (argument args 0)
    return found.elim (.number (-1.0)) fun (i, _) => .nat i
  | .lastIndexOf =>
    let n ← k.lengthOf r
    let stop ← k.searchStop args n
    let found := ((← k.present r).reverse.filter fun (i, _) => i < stop).find? fun (_, v) =>
      v.strictEq (argument args 0)
    return found.elim (.number (-1.0)) fun (i, _) => .nat i
  | .includes =>
    let n ← k.lengthOf r
    let start ← k.searchStart args n
    return .bool (((← k.itemsOf r).drop start).any fun v => v.sameZero (argument args 0))
  | .forEach =>
    let f ← callback args "Array.prototype.forEach: invalid callback function"
    for i in List.range (← k.lengthOf r) do
      match ← k.item? r i with
      | none => pure ()
      | some v => discard <| k.apply f other [v, .nat i, whole]
    return .undefined
  | .map =>
    let f ← callback args "Array.prototype.map: Callbackfn is not callable"
    makeItems (← k.mapped f other r).toArray
  | .flat =>
    let depth ← match argument args 0 with
      | .undefined => pure 1
      | v => pure (Number.clampPlace (← k.toNumber v) maxFlatDepth)
    makeArray (← k.flattened depth ((← k.present r).map (·.2)))
  | .flatMap =>
    let f ← callback args "flatMap mapper function is not callable"
    makeArray (← k.flattened 1 ((← k.mapped f other r).filterMap id))
  | .filter =>
    let f ← callback args "Array.prototype.filter: \x60callback\x60 must be callable"
    let items ← (List.range (← k.lengthOf r)).filterMapM fun i => do
      match ← k.item? r i with
      | none => return none
      | some v => return if (← k.apply f other [v, .nat i, whole]).isTruthy then some v else none
    makeArray items
  | .anyItem =>
    let f ← callback args "Array.prototype.some: callback is not callable"
    return .bool (← k.firstFor f other r false (List.range (← k.lengthOf r))).isSome
  | .everyItem =>
    let f ← callback args "Array.prototype.every: callback is not callable"
    for i in List.range (← k.lengthOf r) do
      match ← k.item? r i with
      | none => pure ()
      | some v => if !(← k.apply f other [v, .nat i, whole]).isTruthy then return .bool false
    return .bool true
  | .find =>
    let f ← callback args "Array.prototype.find: predicate is not callable"
    let found ← k.firstFor f other r true (List.range (← k.lengthOf r))
    return (found.map (·.2)).getD .undefined
  | .findIndex =>
    let f ← callback args "Array.prototype.findIndex: predicate is not callable"
    let found ← k.firstFor f other r true (List.range (← k.lengthOf r))
    return found.elim (.number (-1.0)) fun (i, _) => .nat i
  | .findLast =>
    let f ← callback args "Array.prototype.findLast: predicate is not callable"
    let found ← k.firstFor f other r true (List.range (← k.lengthOf r)).reverse
    return (found.map (·.2)).getD .undefined
  | .findLastIndex =>
    let f ← callback args "Array.prototype.findLastIndex: predicate is not callable"
    let found ← k.firstFor f other r true (List.range (← k.lengthOf r)).reverse
    return found.elim (.number (-1.0)) fun (i, _) => .nat i
  | .reduce => k.reduce "Array.prototype.reduce" args r (List.range (← k.lengthOf r))
  | .reduceRight => k.reduce "Array.prototype.reduceRight" args r (List.range (← k.lengthOf r)).reverse
  | .sort =>
    let f := argument args 0
    orderArgument f
    let items ← k.itemsInOrder f ((← k.present r).map (·.2))
    k.changeItems r fun old => ((), (items.map some).toArray ++ Array.replicate (old.size - items.length) none)
    return whole
  | .sorted =>
    let f := argument args 0
    orderArgument f
    makeArray (← k.itemsInOrder f (← k.itemsOf r))
  | .fill =>
    let n ← k.lengthOf r
    let start ← k.placeOr other n 0
    let stop ← k.placeOr (argument args 2) n n
    k.changeItems r fun items =>
      ((), items.mapIdx fun i v => if start ≤ i && i < stop then some (argument args 0) else v)
    return whole
  | .copyWithin =>
    let n ← k.lengthOf r
    let target ← k.placeOr (argument args 0) n 0
    let start ← k.placeOr other n 0
    let stop ← k.placeOr (argument args 2) n n
    k.changeItems r fun items =>
      let moved := items.extract start (min stop (start + (n - target)))
      ((), items.mapIdx fun i v => if target ≤ i && i < target + moved.size then moved[i - target]?.join else v)
    return whole

end Pagewalk.Script
