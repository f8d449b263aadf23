import Pagewalk.Script.Data
import Pagewalk.Script.Operators

/-!
# Values made from data

A text that writes data is made into the value that it writes. A function may then put others in the place of the
parts of that value, the inner ones first.
-/

namespace Pagewalk.Script

open Text

mutual

/-- The value of data. -/
def valueOfData : Data → Run Value
  | .null => return .null
  | .bool b => return .bool b
  | .number x => return .number x
  | .text s => return .text (CodeUnits.ofString s)
  | .list items => do makeArray (← valuesOfData items)
  | .record entries => do
    let r ← makeObject
    giveEntries r entries
    return .object r

/-- The values of data. -/
def valuesOfData : List Data → Run (List Value)
  | [] => return []
  | d :: ds => return (← valueOfData d) :: (← valuesOfData ds)

/-- Gives an object the values of entries under their keys. -/
def giveEntries (r : Ref) : List (String × Data) → Run Unit
  | [] => return ()
  | (key, d) :: entries => do
    defineProperty r (CodeUnits.ofString key) (.plain (← valueOfData d))
    giveEntries r entries

end

/-- The value under a key when a function has put others in the place of its parts and of itself. What has no value
then is taken away. The depth of objects in objects is bounded. -/
def Kernel.revived (k : Kernel) (f : Value) : Nat → (holder : Ref) → (key : Name) → Run Value
  | 0, _, _ => throw (.limit "exceeded maximum number of recursive calls")
  | n + 1, holder, key => do
    let v ← k.property holder key
    match v with
    | .object r =>
      let o ← object r
      let keys ← if o.items?.isSome then pure ((List.range (← k.lengthOf r)).map Obj.indexKey) else enumerableKeys r
      keys.forM fun key => do
        match ← k.revived f n r key with
        | .undefined => discard <| deleteProperty r key
        | new => defineProperty r key (.plain new)
    | _ => pure ()
    k.apply f (.object holder) [.text key, v]

/-- The value that a text of data writes, as a function makes it if there is one. -/
def Kernel.readData (k : Kernel) (v f : Value) : Run Value := do
  let s ← k.toText v
  let cs ← (decodeUnits s.val.toList).mapM fun
    | .ok c => pure c
    | .error _ => fail .malformed "invalid utf-16: lone surrogate found"
  match Data.read cs with
  | .error fault => fail .malformed fault
  | .ok d =>
    let made ← valueOfData d
    if ← isCallable f then
      let holder ← makeObject
      defineProperty holder CodeUnits.empty (.plain made)
      k.revived f 4000 holder CodeUnits.empty
    else return made

end Pagewalk.Script
