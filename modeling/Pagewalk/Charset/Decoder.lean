import Pagewalk.Charset.Encoding
import Pagewalk.Text.Blank
import Pagewalk.Text.CodeUnits
import Pagewalk.Text.Utf8

/-!
# Reading bytes in an encoding

`Encoding.decode` gives the characters of a body, `none` for each part that cannot be read. `Encoding.ofLabel?`
finds the encoding that a label selects, and `Mark.of?` the byte order mark at the start of a body.
-/

namespace Pagewalk.Charset

open Text

/-! ### Sixteen-bit units -/

/-- A reading of sixteen-bit units in progress: the first byte of a unit, and the units read so far. -/
structure UnitReading where
  byte : Option UInt8
  units : Pairing

/-- Takes one byte. -/
def UnitReading.step (bigEndian : Bool) (r : UnitReading) (b : UInt8) : UnitReading :=
  match r.byte with
  | none => { r with byte := some b }
  | some a =>
    let (high, low) := if bigEndian then (a, b) else (b, a)
    ⟨none, r.units.step (high.toUInt16 * 256 + low.toUInt16)⟩

/-- What was read; whatever is incomplete at the end counts as one unreadable part. -/
def UnitReading.finish (r : UnitReading) : List (Option Char) :=
  let read := r.units.read.map Except.toOption
  (if r.byte.isSome || r.units.half.isSome then none :: read else read).reverse

/-! ### Decoding -/

/-- The character of a byte where ASCII is below 0x80. -/
def asciiOr (upper : Nat → Option Char) (b : UInt8) : Option Char :=
  if b < 0x80 then some (Char.ofNat b.toNat) else upper (b.toNat - 0x80)

/-- The characters of a body; `none` stands for a part that cannot be read. -/
def Scheme.decode (s : Scheme) (body : List UInt8) : List (Option Char) :=
  match s with
  | .utf8 => Utf8.decode body
  | .utf16 bigEndian => (body.foldl (UnitReading.step bigEndian) ⟨none, ⟨none, []⟩⟩).finish
  | .singleByte upper =>
    let table := upper.toList.toArray
    body.map <| asciiOr fun i => table[i]?.filter (· != Utf8.replacement)
  | .userDefined => body.map <| asciiOr fun i => some (Char.ofNat (0xF780 + i))
  | .replacement => if body.isEmpty then [] else [none]
  | .asciiOnly => body.map <| asciiOr fun _ => none

/-- The text of a body and whether some part of it could not be read; each such part is one U+FFFD. -/
def Encoding.decode (e : Encoding) (body : List UInt8) : String × Bool :=
  let chars := e.scheme.decode body
  (String.ofList (chars.map (·.getD Utf8.replacement)), chars.any Option.isNone)

/-! ### Labels and marks -/

/-- The encoding that a label selects; the case of ASCII letters and the blanks around it do not count. -/
def Encoding.ofLabel? (label : String) : Option Encoding :=
  let cs := (label.toList.dropWhile isSpace).reverse.dropWhile isSpace
  let wanted := lower (String.ofList cs.reverse)
  Encoding.all.find? fun e => e.labels.contains wanted

/-- The encoding that a byte order mark announces, and the body after the mark. -/
def Encoding.ofMark? : List UInt8 → Option (Encoding × List UInt8)
  | 0xEF :: 0xBB :: 0xBF :: rest => some (.utf8, rest)
  | 0xFF :: 0xFE :: rest => some (.utf16le, rest)
  | 0xFE :: 0xFF :: rest => some (.utf16be, rest)
  | _ => none

end Pagewalk.Charset
