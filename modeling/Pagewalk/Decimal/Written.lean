import Pagewalk.Decimal.Shortest

/-!
# Written numbers

A number is written with its shortest digits. `plain` never uses an exponent and keeps the sign of zero; `compact`
uses an exponent from 1e21 up and below 1e-6 and writes both zeros alike; `pointed` always shows that the number
need not be whole.
-/

namespace Pagewalk.Decimal

/-- So many zeros. -/
def zeros (n : Nat) : String := String.ofList (List.replicate n '0')

/-- Digits with a point, and without an exponent. -/
def Scaled.positional (s : Scaled) : String :=
  let ds := toString s.digits
  match s.exponent with
  | .ofNat e => ds ++ zeros e
  | .negSucc e =>
    let places := e + 1
    if ds.length > places then
      String.ofList (ds.toList.take (ds.length - places)) ++ "." ++
        String.ofList (ds.toList.drop (ds.length - places))
    else "0." ++ zeros (places - ds.length) ++ ds

/-- One digit, the others after a point, and the exponent after a mark and a sign for positive exponents. -/
def Scaled.scientific (s : Scaled) (plus : String) : String :=
  let ds := (toString s.digits).toList
  let e : Int := s.exponent + ds.length - 1
  let first := String.ofList (ds.take 1)
  let mantissa := if ds.length ≤ 1 then first else first ++ "." ++ String.ofList (ds.drop 1)
  mantissa ++ "e" ++ (if e < 0 then "-" ++ toString e.natAbs else plus ++ toString e.natAbs)

/-- A minus sign for a negative number. -/
def signed (negative : Bool) (s : String) : String := if negative then "-" ++ s else s

/-- A number without an exponent. -/
def Parts.plain : Parts → String
  | nan => "NaN"
  | infinite negative => signed negative "Infinity"
  | zero negative => signed negative "0"
  | finite negative b => signed negative b.shortest.positional

/-- A number with an exponent where it is very large or very small. -/
def Parts.compact : Parts → String
  | nan => "NaN"
  | infinite negative => signed negative "Infinity"
  | zero _ => "0"
  | finite negative b =>
    let s := b.shortest
    let point : Int := s.exponent + (toString s.digits).length
    signed negative (if -6 < point ∧ point ≤ 21 then s.positional else s.scientific "+")

/-- A number with at least one place, or with an exponent where it is very large or very small. -/
def Parts.pointed : Parts → String
  | nan => "NaN"
  | infinite negative => signed negative "inf"
  | zero negative => signed negative "0.0"
  | finite negative b =>
    let s := b.shortest
    let point : Int := s.exponent + (toString s.digits).length
    signed negative <|
      if -3 ≤ point ∧ point ≤ 16 then
        if s.exponent ≥ 0 then s.positional ++ ".0" else s.positional
      else s.scientific ""

/-- A number of double width without an exponent. -/
def plain (x : Float) : String := (Parts.ofFloat x).plain

/-- A number of double width in compact form. -/
def compact (x : Float) : String := (Parts.ofFloat x).compact

/-! ### Numbers rounded to some digits

A positive number has a nearest decimal of each count of digits. Where two are equally near the even one is taken,
or the greater one if halves are to go up.
-/

/-- A quotient rounded to the nearest natural number. -/
def roundedQuotient (halfUp : Bool) (num den : Nat) : Nat :=
  let q := num / den
  let r := num % den
  if 2 * r > den || (2 * r = den && (halfUp || q % 2 = 1)) then q + 1 else q

/-- The decimal of so many digits that is nearest to a number. -/
def Binary.rounded (b : Binary) (halfUp : Bool) (count : Nat) : Scaled :=
  let k := b.magnitude - count
  let num := b.mantissa * Nat.pow 2 b.exponent.toNat * Nat.pow 10 (-k).toNat
  let den := Nat.pow 2 (-b.exponent).toNat * Nat.pow 10 k.toNat
  let n := roundedQuotient halfUp num den
  if n < Nat.pow 10 count then ⟨n, k⟩ else ⟨n / 10, k + 1⟩

/-- The exponent of the first digit. -/
def Scaled.leadingExponent (s : Scaled) : Int := s.exponent + (toString s.digits).length - 1

/-- A number with an exponent and so many places, or as many as tell it from others. The exponent of a number from
one up has a sign. -/
def exponential (x : Float) (places : Option Nat) : String :=
  match Parts.ofFloat x with
  | .nan => "NaN"
  | .infinite negative => signed negative "Infinity"
  | .zero _ =>
    match places with
    | none => "0e+0"
    | some 0 => "0e+0"
    | some n => "0." ++ zeros n ++ "e+0"
  | .finite negative b =>
    let s := match places with
      | none => b.shortest
      | some n => b.rounded false (n + 1)
    signed negative (s.scientific (if x.abs ≥ 1.0 then "+" else ""))

/-- A number with so many digits; an exponent stands where there are more digits before the point, or many zeros
after it. -/
def precise (x : Float) (count : Nat) : String :=
  match Parts.ofFloat x with
  | .nan => "NaN"
  | .infinite negative => signed negative "Infinity"
  | .zero _ => if count ≤ 1 then "0" else "0." ++ zeros (count - 1)
  | .finite negative b =>
    let s := b.rounded true count
    let e := s.leadingExponent
    signed negative (if e < -6 || e ≥ count then s.scientific (if e < 0 then "" else "+") else s.positional)

end Pagewalk.Decimal
