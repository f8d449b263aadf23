import Pagewalk.Script.Convert

/-!
# Texts written into addresses

In an address a character that may not stand there is written as its octets, each a percent sign with two digits.
The parts of an address may not hold the marks between its parts; a whole address may.
-/

namespace Pagewalk.Script

open Text

/-- A mark between the parts of an address. -/
def isAddressMark (c : Char) : Bool := ";/?:@&=+$,#".toList.contains c

/-- A character that stands for itself in the parts of an address. -/
def isAddressPart (c : Char) : Bool := c.isAlphanum || "-_.!~*'()".toList.contains c

/-- The octets of a character, written out. -/
def escapedChar (c : Char) : List Char :=
  (String.utf8EncodeChar c).flatMap fun b => '%' :: (Text.upper (Text.digits 16 2 b.toNat)).toList

/-- Writes a text into an address, of which it may be the whole. -/
def Kernel.writeAddress (k : Kernel) (whole : Bool) (v : Value) : Run Value := do
  let parts ← (decodeUnits (← k.toText v).val.toList).mapM fun
    | .ok c => pure (if isAddressPart c || (whole && isAddressMark c) then [c] else escapedChar c)
    | .error _ => fail .address "trying to encode an invalid string"
  return .text (CodeUnits.ofChars parts.flatten)

/-- The octet that two hexadecimal digits write. -/
def octet? (a b : UInt16) : Option UInt8 :=
  (Literal.natural? 16 [Char.ofNat a.toNat, Char.ofNat b.toNat]).map Nat.toUInt8

/-- How many octets a character takes, told by the first of them. -/
def octetCount (b : UInt8) : Option Nat :=
  if b < 0x80 then some 1
  else if b < 0xC0 then none
  else if b < 0xE0 then some 2
  else if b < 0xF0 then some 3
  else if b < 0xF8 then some 4
  else none

/-- So many written octets, and the rest. -/
def moreOctets : Nat → List UInt16 → Except String (List UInt8 × List UInt16)
  | 0, us => .ok ([], us)
  | n + 1, p :: a :: b :: us => do
    if p != 0x25 then throw "escape characters must be preceded with a % sign"
    let some x := octet? a b | throw "invalid hexadecimal digit found"
    let (xs, rest) ← moreOctets n us
    return (x :: xs, rest)
  | _ + 1, _ => .error "non-terminated escape character found"

/-- The character that is written after a percent sign, and the rest. -/
def escapedPoint (us : List UInt16) : Except String (Char × List UInt16) := do
  match us with
  | a :: b :: us =>
    let some x := octet? a b | throw "invalid hexadecimal digit found"
    let some count := octetCount x | throw "invalid escaped character found"
    if us.length < 3 * (count - 1) then throw "non-terminated escape character found"
    let (xs, rest) ← moreOctets (count - 1) us
    match Utf8.decode (x :: xs) with
    | [some c] => return (c, rest)
    | _ => throw "invalid UTF-8 encoding found"
  | _ => throw "invalid escape character found"

/-- Reads the written octets of a text of less than so many units; a character that was kept from being written stays
so. What was read before is given last first. -/
def readAddressUnits (isKept : Char → Bool) : Nat → (before us : List UInt16) → Except String (List UInt16)
  | 0, before, _ => .ok before.reverse
  | _ + 1, before, [] => .ok before.reverse
  | n + 1, before, u :: us =>
    if u != 0x25 then readAddressUnits isKept n (u :: before) us
    else
      match escapedPoint us with
      | .error fault => .error fault
      | .ok (c, rest) =>
        if isKept c then readAddressUnits isKept n ((u :: us.take 2).reverse ++ before) rest
        else readAddressUnits isKept n ((unitsOfChar c).reverse ++ before) rest

/-- Reads a text as it stands in an address, of which it may be the whole. -/
def Kernel.readAddress (k : Kernel) (whole : Bool) (v : Value) : Run Value := do
  let us := (← k.toText v).val.toList
  match readAddressUnits (fun c => whole && isAddressMark c) (us.length + 1) [] us with
  | .ok us => return .text ⟨us.toArray⟩
  | .error fault => fail .address fault

end Pagewalk.Script
