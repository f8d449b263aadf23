import Pagewalk.Decimal.Written
import Pagewalk.Script.Convert

/-!
# What numbers and truth values do

The functions of the makers of numbers and of truth values, those that these inherit, and the functions of
mathematics.
-/

namespace Pagewalk.Script

open Text

/-! ### Simple values -/

/-- The simple value of a kind that `this` is or holds. -/
def heldValue? (this : Value) : Run (Option Value) := do
  match this with
  | .object r =>
    match (← object r).shape with
    | .boxed v => return some v
    | _ => return none
  | v => return some v

/-- The number that `this` is or holds. -/
def thisNumber (this : Value) : Run Float := do
  match ← heldValue? this with
  | some (.number x) => return x
  | _ => typeFault "'this' is not a number"

/-- The truth value that `this` is or holds. -/
def thisBool (this : Value) : Run Bool := do
  match ← heldValue? this with
  | some (.bool b) => return b
  | _ => typeFault "'this' is not a boolean"

/-- The count that an argument means, held to a range. -/
def Kernel.countBetween (k : Kernel) (v : Value) (least : Float) (fault : String) : Run Nat := do
  let n := Number.toInteger (← k.toNumber v)
  if n < least || n > 100.0 then fail .range fault
  return n.toUInt64.toNat

/-- The number is a whole one. -/
def isWhole (x : Float) : Bool := !x.isNaN && !x.isInf && x.floor == x

/-- The text of a number in a base. -/
def Kernel.numberText (k : Kernel) (x : Float) (base : Value) : Run Value := do
  let base ← match base with
    | .undefined => pure 10.0
    | v => pure (Number.toInteger (← k.toNumber v))
  if base < 2.0 || base > 36.0 then
    fail .range "radix must be an integer at least 2 and no greater than 36"
  if base == 10.0 || x.isNaN || x.isInf then return .string (Decimal.compact x)
  return .string (Number.inRadix x base.toUInt64.toNat)

/-- What the functions of numbers and truth values do. -/
def Kernel.simpleFunction (k : Kernel) (f : SimpleFunction) (this : Value) (args : List Value) : Run Value := do
  let first := argument args 0
  match f with
  | .numberMake => if args.isEmpty then return .number 0.0 else return .number (← k.toNumber first)
  | .numberCheck kind =>
    match first, kind with
    | .number x, .finite => return .bool (!x.isNaN && !x.isInf)
    | .number x, .whole => return .bool (isWhole x)
    | .number x, .safe => return .bool (isWhole x && x.abs ≤ 9007199254740991.0)
    | _, _ => return .bool false
  | .numberText => k.numberText (← thisNumber this) first
  | .numberPlainText =>
    let x ← thisNumber this
    return .string (if x.isInf then (if x < 0.0 then "-inf" else "inf") else Decimal.plain x)
  | .numberValue => return .number (← thisNumber this)
  | .numberFixed =>
    let x ← thisNumber this
    let places ← k.countBetween first 0.0 "toFixed() digits argument must be between 0 and 100"
    if x.abs ≥ 1e21 then return .string (Decimal.compact x)
    return .string (Number.fixed x places)
  | .numberExponential =>
    let x ← thisNumber this
    if args.isEmpty then return .string (Decimal.exponential x none)
    let n := Number.toInteger (← k.toNumber first)
    if x.isNaN || x.isInf then return .string (Decimal.compact x)
    let places ← k.countBetween (.number n) 0.0 "toExponential() argument must be between 0 and 100"
    return .string (Decimal.exponential x (some places))
  | .numberPrecise =>
    let x ← thisNumber this
    match first with
    | .undefined => return .string (Decimal.compact x)
    | v =>
      let n := Number.toInteger (← k.toNumber v)
      if x.isNaN || x.isInf then return .string (Decimal.compact x)
      let count ← k.countBetween (.number n) 1.0 "precision must be an integer at least 1 and no greater than 100"
      return .string (Decimal.precise x count)
  | .boolMake => return .bool first.isTruthy
  | .boolText => return .string (if ← thisBool this then "true" else "false")
  | .boolValue => return .bool (← thisBool this)
  | .parseInt =>
    let s ← k.toText first
    let base := Number.toWord (← k.toNumber (argument args 1))
    return .number (Number.leadingWhole s base.toNat)
  | .parseFloat => return .number (Number.leading (← k.toText first))
  | .isNaN => return .bool (← k.toNumber first).isNaN
  | .isFinite =>
    let x ← k.toNumber first
    return .bool (!x.isNaN && !x.isInf)

/-! ### Mathematics -/

/-- The logarithm of a number and one. Near zero the rounding of the sum is made up for. -/
def logOfOneMore (x : Float) : Float :=
  let u := 1.0 + x
  if u == 1.0 || u.isInf || u.isNaN then (if u == 1.0 then x else u.log) else u.log * (x / (u - 1.0))

/-- The exponential of a number less one. Near zero the rounding of the difference is made up for. -/
def expWithoutOne (x : Float) : Float :=
  let u := x.exp
  if u == 1.0 then x
  else if u.isInf || u.isNaN || u - 1.0 == -1.0 then u - 1.0
  else (u - 1.0) * (x / u.log)

/-- The third side of a right triangle. -/
def hypotenuse (x y : Float) : Float :=
  if x.isInf || y.isInf then 1.0 / 0.0
  else if x.isNaN || y.isNaN then Number.nan
  else
    let a := max x.abs y.abs
    let b := min x.abs y.abs
    if a == 0.0 then 0.0
    else if a > 1e150 || b < 1e-150 then a * (1.0 + (b / a) * (b / a)).sqrt
    else (a * a + b * b).sqrt

/-- How many bits of a word stand before its first one. -/
def zeroBitsBefore (w : UInt32) : Nat := if w = 0 then 32 else 31 - Nat.log2 w.toNat

/-- A function of one number. -/
def MathFunction.ofOne (f : MathFunction) (x : Float) : Float :=
  match f with
  | .floor => x.floor
  | .ceil => x.ceil
  | .round => Number.round x
  | .trunc => Number.trunc x
  | .abs => x.abs
  | .sign => if x > 0.0 then 1.0 else if x < 0.0 then -1.0 else x
  | .sqrt => x.sqrt
  | .cbrt => x.cbrt
  | .exp => x.exp
  | .expLessOne => expWithoutOne x
  | .log => x.log
  | .logAboveOne => logOfOneMore x
  | .log2 => x.log2
  | .log10 => x.log10
  | .sin => x.sin
  | .cos => x.cos
  | .tan => x.tan
  | .asin => x.asin
  | .acos => x.acos
  | .atan => x.atan
  | .sinh => x.sinh
  | .cosh => x.cosh
  | .tanh => x.tanh
  | .asinh => x.asinh
  | .acosh => x.acosh
  | .atanh => x.atanh
  | .single => x.toFloat32.toFloat
  | .leadingZeroBits => (zeroBitsBefore (Number.toWord x)).toFloat
  | _ => x

/-- What the functions of mathematics do. -/
def Kernel.mathFunction (k : Kernel) (f : MathFunction) (args : List Value) : Run Value := do
  let xs ← args.mapM k.toNumber
  let x := xs[0]?.getD Number.nan
  let y := xs[1]?.getD Number.nan
  let best (start : Float) (better : Float → Float → Bool) : Float :=
    xs.foldl (fun acc y => if acc.isNaN || y.isNaN then Number.nan else if better y acc then y else acc) start
  let isNegativeZero (x : Float) : Bool := x == 0.0 && 1.0 / x < 0.0
  return .number (match f with
    | .max => best (-1.0 / 0.0) fun y acc => y > acc || (y == acc && isNegativeZero acc)
    | .min => best (1.0 / 0.0) fun y acc => y < acc || (y == acc && isNegativeZero y)
    | .pow => Number.realPower x y
    | .atan2 => x.atan2 y
    | .hypot => xs.foldl hypotenuse 0.0
    | .multiplyWords => Number.ofSignedWord (Number.toWord x * Number.toWord y)
    | f => f.ofOne x)

end Pagewalk.Script
