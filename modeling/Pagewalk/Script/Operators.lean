import Pagewalk.Script.Convert

/-!
# Operators

What the operators between values do. Addition joins texts when either side is one after both were made simple;
comparison orders two texts by their units and anything else by numbers.
-/

namespace Pagewalk.Script

open Text

/-- The name of the type of a value. -/
def typeName (v : Value) : Run String :=
  match v with
  | .undefined => return "undefined"
  | .null => return "object"
  | .bool _ => return "boolean"
  | .number _ => return "number"
  | .text _ => return "string"
  | .object r => return if (← object r).isCallable then "function" else "object"

/-- The text that says which kind of object it is. -/
def kindText (v : Value) : Run String := do
  match v with
  | .undefined => return "[object Undefined]"
  | .null => return "[object Null]"
  | v =>
    let o ← object (← toObject v)
    return match o.shape with
      | .array .. => "[object Array]"
      | .arguments .. => "[object Arguments]"
      | .closure .. => "[object Function]"
      | .native .. => "[object Function]"
      | .bound .. => "[object Function]"
      | .error => "[object Error]"
      | .promise _ => "[object Promise]"
      | .date _ => "[object Date]"
      | .boxed (.bool _) => "[object Boolean]"
      | .boxed (.number _) => "[object Number]"
      | .boxed (.text _) => "[object String]"
      | .toolbox name => "[object " ++ name ++ "]"
      | _ => "[object Object]"

/-- The sum of two simple values. -/
def addSimple : Value → Value → Value
  | .text a, b => .text (a ++ textOfSimple b)
  | a, .text b => .text (textOfSimple a ++ b)
  | a, b => .number (numberOfSimple a + numberOfSimple b)

/-- A simple value is less than another; `none` if one of them is no number. -/
def lessSimple : Value → Value → Option Bool
  | .text a, .text b => some (a.lt b)
  | a, b =>
    let x := numberOfSimple a
    let y := numberOfSimple b
    if x.isNaN || y.isNaN then none else some (x < y)

/-- Equality of simple values after conversion. -/
def looseSimple : Value → Value → Bool
  | .undefined, b => b.isNullish
  | .null, b => b.isNullish
  | _, .undefined => false
  | _, .null => false
  | .text a, .text b => a == b
  | a, b => numberOfSimple a == numberOfSimple b

/-- Equality after conversion. -/
def Kernel.looseEq (k : Kernel) (a b : Value) : Run Bool := do
  match a, b with
  | .object r, .object s => return r == s
  | .object _, b => if b.isNullish then return false else return looseSimple (← k.simple a) b
  | a, .object _ => if a.isNullish then return false else return looseSimple a (← k.simple b)
  | a, b => return looseSimple a b

/-- The power of two values; a base or an exponent that has to be converted first is not multiplied out. -/
def Kernel.power (k : Kernel) (a b : Value) : Run Value := do
  match a, b with
  | .number x, .number y => return .number (Number.power x y)
  | a, b =>
    let x ← k.toNumber a
    let y ← k.toNumber b
    return .number (Number.realPower x y)

/-- Two values compared as numbers or texts; `swap` asks for the second to be less. -/
def Kernel.compare (k : Kernel) (a b : Value) (swap negate : Bool) : Run Value := do
  let x ← k.simpleNumber a
  let y ← k.simpleNumber b
  let less := if swap then lessSimple y x else lessSimple x y
  return .bool (match less with
    | none => false
    | some r => if negate then !r else r)

/-- An object was made by a function, or inherits from what that function gives to those it makes. -/
def Kernel.instanceOf (k : Kernel) (v f : Value) : Run Bool := do
  match f with
  | .object r =>
    let o ← object r
    let maker ← match o.shape with
      | .bound (.object t) .. => pure t
      | _ => pure r
    if !o.isCallable then typeFault "right-hand side of 'instanceof' is not callable"
    match v with
    | .object s =>
      match ← k.property maker parentKey with
      | .object wanted => inheritsFrom ((← realm).objects.size + 1) s wanted
      | _ => typeFault "function has non-object prototype in instanceof check"
    | _ => return false
  | f => typeFault ("right-hand side of 'instanceof' should be an object, got `" ++ (← typeName f) ++ "`")

/-- Two operands as words, joined. -/
def Kernel.words (k : Kernel) (a b : Value) (f : UInt32 → UInt32 → Float) : Run Value := do
  let x ← k.toNumber a
  let y ← k.toNumber b
  return .number (f (Number.toWord x) (Number.toWord y))

/-- Two operands as numbers, joined. -/
def Kernel.numbers (k : Kernel) (a b : Value) (f : Float → Float → Float) : Run Value := do
  let x ← k.toNumber a
  let y ← k.toNumber b
  return .number (f x y)

/-- A word shifted to the right, its sign being kept. -/
def shiftSigned (a b : UInt32) : Float :=
  let n : Int := if a.toNat < 2147483648 then a.toNat else (a.toNat : Int) - 4294967296
  Float.ofInt (n >>> (b.toNat % 32))

/-- The value of an operator between two values. -/
def Kernel.binary (k : Kernel) (op : BinaryOp) (a b : Value) : Run Value := do
  match op with
  | .add =>
    let x ← k.simple a
    let y ← k.simple b
    return addSimple x y
  | .subtract => k.numbers a b (· - ·)
  | .multiply => k.numbers a b (· * ·)
  | .divide => k.numbers a b (· / ·)
  | .remainder => k.numbers a b Number.remainder
  | .power => k.power a b
  | .less => k.compare a b false false
  | .greater => k.compare a b true false
  | .lessOrEqual => k.compare a b true true
  | .greaterOrEqual => k.compare a b false true
  | .equal => return .bool (← k.looseEq a b)
  | .notEqual => return .bool (!(← k.looseEq a b))
  | .strictEqual => return .bool (a.strictEq b)
  | .notStrictEqual => return .bool (!a.strictEq b)
  | .bitAnd => k.words a b fun x y => Number.ofSignedWord (x &&& y)
  | .bitOr => k.words a b fun x y => Number.ofSignedWord (x ||| y)
  | .bitXor => k.words a b fun x y => Number.ofSignedWord (x ^^^ y)
  | .shiftLeft => k.words a b fun x y => Number.ofSignedWord (x <<< (y % 32))
  | .shiftRight => k.words a b shiftSigned
  | .shiftRightZero => k.words a b fun x y => (x >>> (y % 32)).toNat.toFloat
  | .instanceOf => return .bool (← k.instanceOf a b)
  | .within =>
    match b with
    | .object r => return .bool (← hasProperty r (← k.toKey a))
    | b => typeFault ("right-hand side of 'in' should be an object, got `" ++ (← typeName b) ++ "`")

/-- The value of an operator before one value. -/
def Kernel.unary (k : Kernel) (op : UnaryOp) (v : Value) : Run Value := do
  match op with
  | .minus => return .number (-(← k.toNumber v))
  | .plus => return .number (← k.toNumber v)
  | .not => return .bool (!v.isTruthy)
  | .complement => return .number (Number.ofSignedWord (~~~(Number.toWord (← k.toNumber v))))
  | .void => return .undefined

end Pagewalk.Script
