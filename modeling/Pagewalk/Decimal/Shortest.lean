/-!
# The shortest decimal of a binary number

A binary number stands for all reals that round to it. Its shortest decimal is the one with the fewest digits among
the decimals in that interval, and of two with equally many digits the nearer one. The search goes through the
grids of one digit, two digits and so on, and on each looks at the two neighbours of the number.
-/

namespace Pagewalk.Decimal

/-- A number of digits and the power of ten by which they are multiplied. -/
structure Scaled where
  digits : Nat
  exponent : Int
  deriving DecidableEq, Repr

/-- A positive binary number: a mantissa times a power of two. `narrow` says that the number right below is only
half as far away as the one right above. -/
structure Binary where
  mantissa : Nat
  exponent : Int
  narrow : Bool
  deriving DecidableEq, Repr

/-- Leaves out zeros at the end of the digits; at most `fuel` of them. -/
def Scaled.trim : Nat → Scaled → Scaled
  | 0, s => s
  | fuel + 1, s => if s.digits ≠ 0 ∧ s.digits % 10 = 0 then trim fuel ⟨s.digits / 10, s.exponent + 1⟩ else s

namespace Binary

/-- The number in quarters of its last place, and the least and the greatest real that round to it. -/
def quarters (b : Binary) : Nat × Nat × Nat :=
  let v := 4 * b.mantissa
  (v, if b.narrow then v - 1 else v - 2, v + 2)

/-- The unit in which `quarters` count, as a fraction. -/
def unit (b : Binary) : Nat × Nat :=
  (Nat.pow 2 (b.exponent - 2).toNat, Nat.pow 2 (2 - b.exponent).toNat)

/-- How many times a fraction below one has to be multiplied by ten to reach one; at most `fuel` times. -/
def leadingZeros : Nat → Nat → Nat → Nat
  | 0, _, _ => 0
  | fuel + 1, num, den => if num ≥ den then 0 else leadingZeros fuel (num * 10) den + 1

/-- The number of digits before the point, negative for zeros after it. -/
def magnitude (b : Binary) : Int :=
  let (n, d) := b.unit
  let num := 4 * b.mantissa * n
  if num ≥ d then (Nat.toDigits 10 (num / d)).length
  else 1 - (leadingZeros 400 num d : Int)

/-- The decimal on the grid of this many digits that rounds to the number and is nearest to it. -/
def onGrid? (b : Binary) (magnitude : Int) (digits : Nat) : Option Scaled :=
  let k := magnitude - digits
  let (n, d) := b.unit
  let p := n * Nat.pow 10 (-k).toNat
  let q := d * Nat.pow 10 k.toNat
  let (v, low, high) := b.quarters
  let below := v * p / q
  let above := below + 1
  let fits := fun (x : Nat) =>
    if b.mantissa % 2 = 0 then low * p ≤ x * q && x * q ≤ high * p else low * p < x * q && x * q < high * p
  match fits below, fits above with
  | true, true =>
    let down := v * p - below * q
    let up := above * q - v * p
    some ⟨if down < up || (down = up && below % 2 = 0) then below else above, k⟩
  | true, false => some ⟨below, k⟩
  | false, true => some ⟨above, k⟩
  | false, false => none

/-- The shortest decimal of a number. -/
def shortest (b : Binary) : Scaled :=
  let m := b.magnitude
  (((List.range 17).findSome? fun i => b.onGrid? m (i + 1)).getD ⟨0, 0⟩).trim 400

end Binary

/-- What a floating number is. -/
inductive Parts where
  | nan
  | infinite (negative : Bool)
  | zero (negative : Bool)
  | finite (negative : Bool) (b : Binary)
  deriving DecidableEq, Repr

/-- The parts of a word with so many bits for the fraction and for the exponent. -/
def Parts.ofWord (fractionBits exponentBits word : Nat) : Parts :=
  let fraction := word % Nat.pow 2 fractionBits
  let e := word / Nat.pow 2 fractionBits % Nat.pow 2 exponentBits
  let negative := word / Nat.pow 2 (fractionBits + exponentBits) % 2 = 1
  let bias : Int := Int.ofNat (Nat.pow 2 (exponentBits - 1)) - 1 + fractionBits
  if e = Nat.pow 2 exponentBits - 1 then if fraction = 0 then .infinite negative else .nan
  else if e = 0 then
    if fraction = 0 then .zero negative else .finite negative ⟨fraction, 1 - bias, false⟩
  else .finite negative ⟨Nat.pow 2 fractionBits + fraction, e - bias, fraction = 0 && e > 1⟩

/-- The parts of a number of double width. -/
def Parts.ofFloat (x : Float) : Parts := .ofWord 52 11 x.toBits.toNat

/-- The parts of a number of single width. -/
def Parts.ofFloat32 (x : Float32) : Parts := .ofWord 23 8 x.toBits.toNat

end Pagewalk.Decimal
