import Pagewalk.Text.Blank

/-!
# Labels in base 36

A label with characters beyond ASCII is written with its ASCII characters first, and after them, for each of the
others in the order of their code points, how far it is from the one before: a distance goes over all places of the
label for each code point. Distances are numbers in base 36 whose digits end a number below a bound that follows the
sizes of the distances so far.
-/

namespace Pagewalk.Url

/-- The digit of base 36 for a value: letters, then digits. -/
def base36Digit (n : Nat) : Char := Char.ofNat (if n < 26 then 'a'.toNat + n else '0'.toNat + n - 26)

/-- The value of a digit of base 36. -/
def base36Value? (c : Char) : Option Nat :=
  if c.isAlpha then some (c.toLower.toNat - 'a'.toNat)
  else if c.isDigit then some (c.toNat - '0'.toNat + 26)
  else none

/-- How many times a distance is divided, and what is left of it. -/
def divideDelta : Nat → Nat → Nat → Nat × Nat
  | 0, delta, k => (delta, k)
  | fuel + 1, delta, k => if delta > 455 then divideDelta fuel (delta / 35) (k + 36) else (delta, k)

/-- The bias after a distance. -/
def adaptBias (delta count : Nat) (first : Bool) : Nat :=
  let delta := if first then delta / 700 else delta / 2
  let delta := delta + delta / count
  let (delta, k) := divideDelta delta delta 0
  k + 36 * delta / (delta + 38)

/-- The bound below which a digit ends a number. -/
def endBound (bias k : Nat) : Nat := if k ≤ bias then 1 else if k ≥ bias + 26 then 26 else k - bias

/-! ### Writing -/

/-- The digits of a distance, each round making it smaller. -/
def deltaDigits (bias : Nat) : Nat → Nat → Nat → List Char
  | 0, q, _ => [base36Digit q]
  | fuel + 1, q, k =>
    let t := endBound bias k
    if q < t then [base36Digit q]
    else base36Digit (t + (q - t) % (36 - t)) :: deltaDigits bias fuel ((q - t) / (36 - t)) (k + 36)

/-- The state while the characters that are not ASCII are written: the code point reached, the distance since the
last, the bias, the number of characters written, and the digits so far. -/
structure LabelState where
  reached : Nat
  delta : Nat
  bias : Nat
  count : Nat
  written : List Char

/-- Goes over all characters of a label and writes those equal to a code point. -/
def writeCodePoint (n basics : Nat) (s : LabelState) (label : List Char) : LabelState :=
  label.foldl (fun s c =>
    if c.toNat < n then { s with delta := s.delta + 1 }
    else if c.toNat = n then
      { s with
        delta := 0
        bias := adaptBias s.delta (s.count + 1) (s.count == basics)
        count := s.count + 1
        written := s.written ++ deltaDigits s.bias (s.delta + 1) s.delta 36 }
    else s) s

/-- A label in base 36, if it needs it. -/
def asciiLabel (label : List Char) : List Char :=
  let basic := label.filter fun c => c.toNat < 0x80
  let others := (label.filter fun c => c.toNat ≥ 0x80).map Char.toNat
  if others.isEmpty then label
  else
    let start : LabelState :=
      ⟨0x80, 0, 72, basic.length, if basic.isEmpty then [] else basic ++ ['-']⟩
    let points := (others.mergeSort (· ≤ ·)).eraseDups
    let s := points.foldl (fun s n =>
      let s := { s with delta := s.delta + (n - s.reached) * (s.count + 1) }
      let s := writeCodePoint n basic.length s label
      { s with delta := s.delta + 1, reached := n + 1 }) start
    "xn--".toList ++ s.written

/-! ### Reading -/

/-- The distance that some digits begin with, added to `sum`, and what follows it. A weight has to fit thirty-two
bits. -/
def readDelta (bias : Nat) : List Char → Nat → Nat → Nat → Option (Nat × List Char)
  | [], _, _, _ => none
  | c :: cs, k, weight, sum =>
    match base36Value? c with
    | none => none
    | some d =>
      let t := endBound bias k
      let sum := sum + d * weight
      if d < t then some (sum, cs)
      else if weight * (36 - t) > 0xFFFFFFFF then none
      else readDelta bias cs (k + 36) (weight * (36 - t)) sum

/-- Puts the characters that some digits write into a label; each takes at least one digit, so the number of digits
bounds the rounds. -/
def readOthers : Nat → List Char → Nat → Nat → Nat → List Char → Option (List Char)
  | _, [], _, _, _, label => some label
  | 0, _ :: _, _, _, _, _ => none
  | fuel + 1, ds, bias, reached, place, label =>
    match readDelta bias ds 36 1 place with
    | none => none
    | some (sum, rest) =>
      let count := label.length + 1
      let n := reached + sum / count
      if n.isValidChar then
        readOthers fuel rest (adaptBias (sum - place) count (place == 0)) n (sum % count + 1)
          (label.insertIdx (sum % count) (Char.ofNat n))
      else none

/-- The label that stands in base 36 after its mark. -/
def readLabel? (cs : List Char) : Option (List Char) :=
  let (ends, starts) := cs.reverse.span (· != '-')
  let basic := (starts.drop 1).reverse
  let digits := if basic.isEmpty then cs else ends.reverse
  readOthers digits.length digits 72 0x80 0 basic

end Pagewalk.Url
