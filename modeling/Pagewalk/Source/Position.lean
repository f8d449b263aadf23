import Pagewalk.Document.Location
import Pagewalk.Source.Segment
import Pagewalk.Text.CodeUnits

/-!
# Positions in a source

Byte offsets are turned into lines and columns in one pass. A line ends at a line feed, at a carriage return, or at
both together, which count once; a column counts sixteen-bit units.
-/

namespace Pagewalk.Source

/-- Where a pass over a source stands. -/
structure Position where
  location : Location
  /-- The character before was a carriage return. -/
  afterReturn : Bool
  deriving DecidableEq, Repr

/-- The start of a source. -/
def Position.start : Position := ⟨⟨0, 1, 0⟩, false⟩

/-- The position after a character. -/
def Position.next (p : Position) (c : Char) : Position :=
  let offset := p.location.offset + c.utf8Size
  if c == '\n' && p.afterReturn then ⟨⟨p.location.line, p.location.column, offset⟩, false⟩
  else if c == '\n' || c == '\r' then ⟨⟨p.location.line + 1, 1, offset⟩, c == '\r'⟩
  else ⟨⟨p.location.line, p.location.column + Text.unitWidth c, offset⟩, false⟩

/-- The locations of offsets that are reached at a position, and the offsets that are left. -/
def reached (p : Position) (acc : List Location) : List Nat → List Location × List Nat
  | [] => (acc, [])
  | o :: os =>
    if o ≤ p.location.offset then reached p (⟨p.location.line, p.location.column, o⟩ :: acc) os else (acc, o :: os)

/-- Goes on through a source, with the locations found so far, last first. -/
def locationsFrom (p : Position) (acc : List Location) (offsets : List Nat) : List Char → List Location
  | [] => acc.reverse
  | c :: cs =>
    match reached p acc offsets with
    | (acc, []) => acc.reverse
    | (acc, offsets) => locationsFrom (p.next c) acc offsets cs

/-- The locations of ascending offsets; an offset after the last character has none. -/
def locations (source : List Char) (offsets : List Nat) : List Location :=
  locationsFrom .start [] offsets source

/-- A start tag of a source. -/
structure StartTag where
  name : String
  location : Location
  deriving DecidableEq, Repr

/-- The start tags of a source, in order. -/
def startTags (source : String) : List StartTag :=
  let cs := source.toList
  let tags := tagsOf 0 (segments cs)
  (tags.zip (locations cs (tags.map (·.2)))).map fun ((name, _), l) => ⟨name, l⟩

end Pagewalk.Source
