import Pagewalk.Text.Blank
import Pagewalk.Text.Utf8

/-!
# Sixteen-bit units

A text as script sees it is a sequence of UTF-16 code units, in which a surrogate may stand alone. `ofString`
splits characters into units and `decode` joins them again; a lone surrogate is the only thing that a text of
characters cannot hold.
-/

namespace Pagewalk.Text

/-- A sequence of UTF-16 code units. -/
structure CodeUnits where
  val : Array UInt16
  deriving DecidableEq, Hashable, Inhabited

instance : Repr CodeUnits := ⟨fun u _ => repr u.val⟩

/-- The number of units that a character takes. -/
def unitWidth (c : Char) : Nat := if c.toNat < 0x10000 then 1 else 2

/-- The units of a character. -/
def unitsOfChar (c : Char) : List UInt16 :=
  let n := c.toNat
  if n < 0x10000 then [n.toUInt16]
  else [(0xD800 + (n - 0x10000) / 0x400).toUInt16, (0xDC00 + (n - 0x10000) % 0x400).toUInt16]

/-- A unit that opens a pair. -/
def isHighHalf (u : UInt16) : Bool := 0xD800 ≤ u && u ≤ 0xDBFF

/-- A unit that closes a pair. -/
def isLowHalf (u : UInt16) : Bool := 0xDC00 ≤ u && u ≤ 0xDFFF

/-- The character of a pair of halves. -/
def joinHalves (h l : UInt16) : Char :=
  Char.ofNat (0x10000 + (h.toNat - 0xD800) * 0x400 + (l.toNat - 0xDC00))

/-- A reading of units in progress: a half that waits for its partner, and what was read, last first. A half
that stands alone is read as itself. -/
structure Pairing where
  half : Option UInt16
  read : List (Except UInt16 Char)

/-- Takes a unit when no half waits. -/
def Pairing.start (read : List (Except UInt16 Char)) (u : UInt16) : Pairing :=
  if isHighHalf u then ⟨some u, read⟩
  else if isLowHalf u then ⟨none, .error u :: read⟩
  else ⟨none, .ok (Char.ofNat u.toNat) :: read⟩

/-- Takes a unit; a waiting half is joined to it or stands alone. -/
def Pairing.step (p : Pairing) (u : UInt16) : Pairing :=
  match p.half with
  | none => .start p.read u
  | some h => if isLowHalf u then ⟨none, .ok (joinHalves h u) :: p.read⟩ else .start (.error h :: p.read) u

/-- What was read, first first. -/
def Pairing.finish (p : Pairing) : List (Except UInt16 Char) :=
  (match p.half with
    | none => p.read
    | some h => .error h :: p.read).reverse

/-- The characters of a unit sequence; a half that stands alone is given as itself. -/
def decodeUnits (us : List UInt16) : List (Except UInt16 Char) :=
  (us.foldl Pairing.step ⟨none, []⟩).finish

namespace CodeUnits

/-- The units of a list of characters. -/
def ofChars (cs : List Char) : CodeUnits := ⟨(cs.flatMap unitsOfChar).toArray⟩

/-- The units of a text. -/
def ofString (s : String) : CodeUnits := ofChars s.toList

instance : Coe String CodeUnits := ⟨ofString⟩

/-- The sequence of no units. -/
def empty : CodeUnits := ⟨#[]⟩

/-- The number of units. -/
def size (u : CodeUnits) : Nat := u.val.size

/-- One sequence after the other. -/
def append (a b : CodeUnits) : CodeUnits := ⟨a.val ++ b.val⟩

instance : Append CodeUnits := ⟨append⟩

/-- The units from `start` up to but not including `stop`. -/
def slice (u : CodeUnits) (start stop : Nat) : CodeUnits := ⟨u.val.extract start stop⟩

/-- The text of a unit sequence; a lone half is written as a `\u` escape of four capital digits. -/
def toText (u : CodeUnits) : String :=
  String.ofList <| (decodeUnits u.val.toList).flatMap fun
    | .ok c => [c]
    | .error h => "\\u".toList ++ (Text.upper (Text.digits 16 4 h.toNat)).toList

/-- The text of a unit sequence, a lone half replaced by U+FFFD. -/
def toLossyText (u : CodeUnits) : String :=
  String.ofList <| (decodeUnits u.val.toList).map fun
    | .ok c => c
    | .error _ => Utf8.replacement

/-- Unit-wise order. -/
def lt (a b : CodeUnits) : Bool := go a.val.toList b.val.toList
where
  go : List UInt16 → List UInt16 → Bool
    | [], [] => false
    | [], _ :: _ => true
    | _ :: _, [] => false
    | x :: xs, y :: ys => if x < y then true else if y < x then false else go xs ys

/-- The pieces put one after another with a separator between them. -/
def join (sep : CodeUnits) : List CodeUnits → CodeUnits
  | [] => empty
  | [u] => u
  | u :: us => us.foldl (fun acc v => acc ++ sep ++ v) u

/-- The first of so many places from one on where `needle` stands. -/
def findFrom (u needle : CodeUnits) : (count : Nat) → (start : Nat) → Option Nat
  | 0, _ => none
  | n + 1, i =>
    let isStart := needle.size = 0 || u.val[i]? == needle.val[0]?
    if isStart && u.val.extract i (i + needle.size) == needle.val then some i else findFrom u needle n (i + 1)

/-- The first place at or after `start` where `needle` stands. -/
def find? (u needle : CodeUnits) (start : Nat) : Option Nat :=
  u.findFrom needle (u.size + 1 - needle.size - start) start

end CodeUnits

end Pagewalk.Text
