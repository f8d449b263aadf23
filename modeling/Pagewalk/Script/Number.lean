import Pagewalk.Decimal.Shortest
import Pagewalk.Decimal.Written
import Pagewalk.Script.Literal

/-!
# Numbers of script

The arithmetic that double-width numbers need beside that of core: remainders with the sign of the dividend,
reduction to words of 32 bits, and numbers written in texts.
-/

namespace Pagewalk.Script.Number

open Text

/-- What is no number. -/
def nan : Float := 0.0 / 0.0

/-- A number without its fraction. -/
def trunc (x : Float) : Float := if x < 0.0 then x.ceil else x.floor

/-- A whole number below 2 ^ 53 times a power of two from the least one on. -/
def ofScaled (m : Nat) (e : Int) : Float :=
  let top := m.log2 + e
  let word :=
    if top < -1022 then m * Nat.pow 2 (e + 1074).toNat
    else (top + 1022).toNat * Nat.pow 2 52 + m * Nat.pow 2 (52 - m.log2)
  if m = 0 then 0.0 else Float.ofBits word.toUInt64

/-- The remainder of two positive binary numbers. -/
def binaryRemainder (a b : Decimal.Binary) : Float :=
  let e := min a.exponent b.exponent
  ofScaled ((a.mantissa * Nat.pow 2 (a.exponent - e).toNat) % (b.mantissa * Nat.pow 2 (b.exponent - e).toNat)) e

/-- The remainder of a division; it has the sign of the dividend. -/
def remainder (x y : Float) : Float :=
  match Decimal.Parts.ofFloat x, Decimal.Parts.ofFloat y with
  | .nan, _ => nan
  | _, .nan => nan
  | .infinite _, _ => nan
  | _, .zero _ => nan
  | .zero _, _ => x
  | .finite .., .infinite _ => x
  | .finite negative a, .finite _ b =>
    let r := binaryRemainder a b
    if negative then -r else r

/-- A number multiplied by itself, by squaring as long as the exponent lasts; at most so many times. -/
def squarings : Nat → (acc base : Float) → (exponent : Nat) → Float
  | 0, acc, _, _ => acc
  | n + 1, acc, base, e =>
    let acc := if e % 2 = 1 then acc * base else acc
    if e / 2 = 0 then acc else squarings n acc (base * base) (e / 2)

/-- The power of two real numbers; one has no infinite power. -/
def realPower (x y : Float) : Float := if y.isNaN || (x.abs == 1.0 && y.isInf) then nan else x.pow y

/-- A power. Where the exponent is a whole number of a word it is multiplied out, and the quotient of one by that is
taken below zero. -/
def power (x y : Float) : Float :=
  if y.floor == y && y.abs ≤ 2147483648.0 && y != 2147483648.0 then
    let r := squarings 32 1.0 x y.abs.toUInt64.toNat
    if y < 0.0 then 1.0 / r else r
  else realPower x y

/-- A number reduced to a word of 32 bits. -/
def toWord (x : Float) : UInt32 :=
  if x.isNaN || x.isInf then 0
  else
    let t := trunc x
    let t := if t.abs < 9007199254740992.0 then t else remainder t 4294967296.0
    (t.toInt64.toInt % 4294967296).toNat.toUInt32

/-- A word as a number with a sign. -/
def ofSignedWord (w : UInt32) : Float :=
  let n := w.toNat
  if n < 2147483648 then n.toFloat else -((4294967296 - n).toFloat)

/-- A number as an integer; what is no number counts as zero. -/
def toInteger (x : Float) : Float := if x.isNaN then 0.0 else if x.isInf then x else trunc x

/-- The place in a sequence that a number means, negative ones counting from its end. -/
def relativePlace (x : Float) (size : Nat) : Nat :=
  let n := toInteger x
  if n < 0.0 then
    let m := size.toFloat + n
    if m < 0.0 then 0 else m.toUInt64.toNat
  else if n > size.toFloat then size else n.toUInt64.toNat

/-- A number held between zero and a size. -/
def clampPlace (x : Float) (size : Nat) : Nat :=
  let n := toInteger x
  if n < 0.0 then 0 else if n > size.toFloat then size else n.toUInt64.toNat

/-- The nearest whole number, a half going up. -/
def round (x : Float) : Float :=
  if x.isNaN || x.isInf then x
  else
    let f := x.floor
    if x - f < 0.5 then (if f == 0.0 && x < 0.0 then -0.0 else f)
    else if f + 1.0 == 0.0 then -0.0 else f + 1.0

/-- A blank around a number. -/
def isBlankAround (c : Char) : Bool := isLineEnd c || (isBlank c && c.toNat != 0x85) || c.toNat == 0xFEFF

/-- Characters without the blanks at both ends. -/
def trimmed (cs : List Char) : List Char := ((cs.dropWhile isBlankAround).reverse.dropWhile isBlankAround).reverse

/-- The decimal that characters write from the first to the last. After a sign infinity may be written short and in
any letters. -/
def decimal? (cs : List Char) : Option Float :=
  let (negative, ds) := Decimal.sign cs
  let isSigned := ds.length < cs.length
  let small := ds.map Char.toLower
  let isInfinite := ds == "Infinity".toList || (isSigned && (small == "inf".toList || small == "infinity".toList))
  let value :=
    if isInfinite then some (1.0 / 0.0)
    else
      match Decimal.unsigned? ds with
      | some (x, []) => some x
      | _ => none
  value.map fun (x : Float) => if negative then -x else x

/-- The natural number that a whole number is. -/
def wholeOf (x : Float) : Nat :=
  match Decimal.Parts.ofFloat x with
  | .finite _ b => b.mantissa * Nat.pow 2 b.exponent.toNat / Nat.pow 2 (-b.exponent).toNat
  | _ => 0

/-- A number with one more digit in a base, rounded after each digit. -/
def withDigit (base : Nat) (x : Float) (digit : Nat) : Float :=
  if x.isInf then x else Float.ofScientific (wholeOf x * base + digit) false 0

/-- The number that a text writes in a base after the two characters that tell it. A plus is taken before digits
that fit into a word. -/
def inBase (base : Nat) (ds : List Char) : Float :=
  match (Literal.plusNatural? base ds).filter (· < 4294967296) with
  | some n => n.toFloat
  | none =>
    if ds.isEmpty || !ds.all (Literal.isDigitOf base) then nan
    else ds.foldl (fun x c => withDigit base x ((Literal.hexValue? c).getD 0)) 0.0

/-- The number that a whole text writes; the empty text writes zero. -/
def ofText (s : CodeUnits) : Float :=
  match trimmed s.toLossyText.toList with
  | [] => 0.0
  | '0' :: 'x' :: ds => inBase 16 ds
  | '0' :: 'X' :: ds => inBase 16 ds
  | '0' :: 'o' :: ds => inBase 8 ds
  | '0' :: 'O' :: ds => inBase 8 ds
  | '0' :: 'b' :: ds => inBase 2 ds
  | '0' :: 'B' :: ds => inBase 2 ds
  | cs => (decimal? cs).getD nan

/-- The decimal at the start of a text. -/
def leading (s : CodeUnits) : Float :=
  let (negative, ds) := Decimal.sign (s.toLossyText.toList.dropWhile isBlankAround)
  let value : Float :=
    if "Infinity".toList.isPrefixOf ds then 1.0 / 0.0 else ((Decimal.unsigned? ds).map (·.1)).getD nan
  if negative then -value else value

/-- The whole number in a base at the start of a text; base zero stands for ten, or sixteen after `0x`. -/
def leadingWhole (s : CodeUnits) (base : Nat) : Float :=
  let (negative, ds) := Decimal.sign (s.toLossyText.toList.dropWhile isBlankAround)
  let (base, ds) := match ds with
    | '0' :: x :: rest =>
      if (x == 'x' || x == 'X') && (base == 0 || base == 16) then (16, rest)
      else (if base == 0 then 10 else base, ds)
    | _ => (if base == 0 then 10 else base, ds)
  let value? (c : Char) : Option Nat :=
    let v := if c.isDigit then some (c.toNat - '0'.toNat)
      else if c.isAlpha then some (c.toLower.toNat - 'a'.toNat + 10) else none
    v.filter (· < base)
  if base < 2 || base > 36 then nan
  else
    let ds := ds.takeWhile fun c => (value? c).isSome
    if ds.isEmpty then nan
    else
      let n := ds.foldl (fun n c => n * base + (value? c).getD 0) 0
      let x := Float.ofScientific n false 0
      if negative then -x else x

/-- The index that a property key writes, if it writes one: digits without a zero before others, below the greatest
word. -/
def index? (key : CodeUnits) : Option Nat :=
  match key.val[0]? with
  | none => none
  | some u =>
    if u < 48 || u > 57 || key.size > 10 then none
    else if u == 48 then (if key.size = 1 then some 0 else none)
    else
      (key.val.foldl (fun acc u =>
        acc.bind fun n => if u < 48 || u > 57 then none else some (n * 10 + (u.toNat - 48))) (some 0)).filter
          (· < 4294967295)

/-- A number from zero up has no fraction: a word of 64 bits holds all of it, or it is too large to have one. -/
def isCount (x : Float) : Bool := x ≥ 0.0 && (x.toUInt64.toFloat == x || x ≥ 18446744073709551616.0)

/-- The index that a number means, if it is one. -/
def indexOfFloat? (x : Float) : Option Nat :=
  if isCount x && x < 4294967295.0 then some x.toUInt64.toNat else none

/-- A number with a fixed count of places, a half going away from zero. -/
def fixed (x : Float) (places : Nat) : String :=
  match Decimal.Parts.ofFloat x with
  | .nan => "NaN"
  | .infinite negative => Decimal.signed negative "Infinity"
  | .zero _ => place 0
  | .finite negative b =>
    let num := b.mantissa * Nat.pow 2 b.exponent.toNat * Nat.pow 10 places
    let den := Nat.pow 2 (-b.exponent).toNat
    let n := (2 * num + den) / (2 * den)
    Decimal.signed negative (place n)
where
  place (n : Nat) : String :=
    let ds := Text.digits 10 (places + 1) n
    if places = 0 then ds
    else
      let cs := ds.toList
      String.ofList (cs.take (cs.length - places)) ++ "." ++ String.ofList (cs.drop (cs.length - places))

/-! ### Numbers in other bases -/

/-- The number that comes next after a positive one. -/
def following (x : Float) : Float := Float.ofBits (x.toBits + 1)

/-- Adds one in the last place of some digits, the last of which stands first. Places that become empty are left out,
and what is over is told. -/
def carryUp (base : Nat) : List Nat → List Nat × Bool
  | [] => ([], true)
  | d :: ds => if d + 1 < base then ((d + 1) :: ds, false) else carryUp base ds

/-- The digits of a fraction, the last first, as many as tell it from others within `margin`; and whether one is over.
A fraction has less than eleven hundred binary digits. -/
def fractionDigits (base : Nat) : Nat → (fraction margin : Float) → List Nat → List Nat × Bool
  | 0, _, _, ds => (ds, false)
  | more + 1, fraction, margin, ds =>
    let shifted := fraction * base.toFloat
    let margin := margin * base.toFloat
    let d := shifted.toUInt64.toNat
    let rest := shifted - d.toFloat
    if (rest > 0.5 || (rest == 0.5 && d % 2 = 1)) && rest + margin > 1.0 then carryUp base (d :: ds)
    else if rest ≥ margin then fractionDigits base more rest margin (d :: ds)
    else (d :: ds, false)

/-- The digits of a natural number in front of others, at most so many. -/
def naturalDigits (base : Nat) : Nat → Nat → List Nat → List Nat
  | 0, _, ds => ds
  | more + 1, n, ds => if n < base then n :: ds else naturalDigits base more (n / base) (n % base :: ds)

/-- The digits of a whole number in front of others; digits beyond the width of a mantissa are zeros. -/
def wholeDigits (base : Nat) : Nat → Float → List Nat → List Nat
  | 0, _, ds => ds
  | more + 1, x, ds =>
    if x ≥ 9007199254740992.0 then wholeDigits base more (x / base.toFloat) (0 :: ds)
    else naturalDigits base 64 x.toUInt64.toNat ds

/-- The digit of a value. -/
def digitOf (n : Nat) : Char := Char.ofNat (if n < 10 then '0'.toNat + n else 'a'.toNat + n - 10)

/-- A number in a base from two to thirty-six, with as many digits as tell it from others. -/
def inRadix (x : Float) (base : Nat) : String :=
  let value := x.abs
  let whole := value.floor
  let margin := max (0.5 * (following value - value)) (following 0.0)
  let fraction := value - whole
  let (ds, carries) := if fraction ≥ margin then fractionDigits base 1100 fraction margin [] else ([], false)
  let whole := wholeDigits base 1100 (if carries then whole + 1.0 else whole) []
  let point := if ds.isEmpty then [] else '.' :: ds.reverse.map digitOf
  Decimal.signed (x < 0.0) (String.ofList (whole.map digitOf ++ point))

end Pagewalk.Script.Number
