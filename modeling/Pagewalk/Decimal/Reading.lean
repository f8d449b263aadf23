/-!
# Reading decimals

A decimal has a sign, digits, a point and an exponent. What is read is the floating number nearest to it.
-/

namespace Pagewalk.Decimal

/-- The value of some digits in base ten. -/
def digitsValue (ds : List Char) : Nat := ds.foldl (fun n c => n * 10 + (c.toNat - '0'.toNat)) 0

/-- The number with these digits before the point and these after it, times a power of ten. -/
def ofParts (whole fraction : List Char) (exponent : Int) : Float :=
  let m := digitsValue (whole ++ fraction)
  let e := exponent - fraction.length
  if m = 0 then 0.0
  else if e > 400 then Float.ofScientific m false 400
  else if e < -(400 + (whole.length + fraction.length : Int)) then 0.0
  else if e ≥ 0 then Float.ofScientific m false e.toNat
  else Float.ofScientific m true e.natAbs

/-- The sign at the start of a text, and the rest. -/
def sign : List Char → Bool × List Char
  | '-' :: cs => (true, cs)
  | '+' :: cs => (false, cs)
  | cs => (false, cs)

/-- The exponent at the start of a text and the rest; a mark without digits is no exponent. -/
def exponent? : List Char → Int × List Char
  | c :: cs =>
    if c == 'e' || c == 'E' then
      let (negative, ds) := sign cs
      let (digits, rest) := ds.span Char.isDigit
      if digits.isEmpty then (0, c :: cs)
      else
        let n : Int := digitsValue digits
        (if negative then -n else n, rest)
    else (0, c :: cs)
  | [] => (0, [])

/-- The decimal without a sign at the start of a text, and the rest. There is a digit before or after the point. -/
def unsigned? (cs : List Char) : Option (Float × List Char) :=
  let (whole, rest) := cs.span Char.isDigit
  let (fraction, rest) := match rest with
    | '.' :: more => more.span Char.isDigit
    | rest => ([], rest)
  if whole.isEmpty && fraction.isEmpty then none
  else
    let (e, rest) := exponent? rest
    some (ofParts whole fraction e, rest)

/-- The number that a text writes; besides decimals there are infinities and what is no number, in any case of
letters. -/
def read? (s : String) : Option Float :=
  let (negative, cs) := sign s.toList
  let value := match String.ofList (cs.map Char.toLower) with
    | "inf" => some (1.0 / 0.0)
    | "infinity" => some (1.0 / 0.0)
    | "nan" => some (0.0 / 0.0)
    | _ =>
      match unsigned? cs with
      | some (x, []) => some x
      | _ => none
  value.map fun (x : Float) => if negative then -x else x

end Pagewalk.Decimal
