import Pagewalk.Text.Normal
import Pagewalk.Text.Utf8
import Pagewalk.Url.NameTable
import Pagewalk.Url.Punycode

/-!
# Names of hosts

A name is brought to its one writing: its characters are folded and composed, labels in base 36 are read, and labels
with characters beyond ASCII are written in base 36. A name whose labels could be taken for others, by a mark at the
start, by hidden joiners or by mixed directions, is none.
-/

namespace Pagewalk.Url

open Text

/-- A character that no name may hold. -/
def isForbiddenInName (c : Char) : Bool :=
  c.toNat < 0x20 || c.toNat == 0x7F || c == ' ' || "%#/:<>?@[\\]^|".toList.contains c

/-! ### Folding -/

/-- What a character stands for in a name. -/
def foldedChar? (c : Char) : Option (List Char) :=
  match foldings.get? c with
  | some s => some s.toList
  | none => if ignored.has c then some [] else if strangers.has c then none else some [c]

/-- The one writing of a text, if it can be in a name. -/
def folded? (cs : List Char) : Option (List Char) := do
  let written := compose (← cs.mapM foldedChar?).flatten
  if written.any isForbiddenInName then none else some written

/-- The character is in the one writing. -/
def isOwnWriting (c : Char) : Bool := foldedChar? c == some [c]

/-! ### Directions -/

/-- How a character goes with the direction of writing. -/
inductive Direction where
  | rightward
  | leftward
  | arabicNumber
  | europeanNumber
  | neutral
  | mark
  deriving DecidableEq, Repr

/-- The direction of a character. -/
def Direction.of (c : Char) : Direction :=
  if flatMarks.has c then mark
  else if leftwardLetters.has c then leftward
  else if arabicDigits.has c then arabicNumber
  else if europeanDigits.has c then europeanNumber
  else if neutrals.has c then neutral
  else rightward

/-- The label has something that is written from right to left. -/
def hasLeftward (label : List Char) : Bool :=
  label.any fun c => [.leftward, .arabicNumber].contains (Direction.of c)

/-- The label begins with a letter, goes on in its direction, and ends with a letter or a number. -/
def keepsDirection (label : List Char) : Bool :=
  let ds := label.map Direction.of
  let last? := (ds.reverse.dropWhile (· == .mark)).head?
  match ds.head? with
  | none => true
  | some .rightward =>
    ds.all [.rightward, .europeanNumber, .neutral, .mark].contains &&
      [some .rightward, some .europeanNumber].contains last?
  | some .leftward =>
    !ds.contains .rightward && [some .leftward, some .europeanNumber, some .arabicNumber].contains last? &&
      !(ds.contains .europeanNumber && ds.contains .arabicNumber)
  | some _ => false

/-! ### Joiners -/

/-- The sign by which letters are joined. -/
def joiner : Char := Char.ofNat 0x200D

/-- The sign by which letters are not joined. -/
def nonJoiner : Char := Char.ofNat 0x200C

/-- The first letter of some characters, marks aside, is one of those. -/
def beginsWith (letters : List Ranges) (cs : List Char) : Bool :=
  match cs.dropWhile flatMarks.has with
  | c :: _ => letters.any (·.has c)
  | [] => false

/-- Joiners stand only where they can be seen: behind a sign that takes the vowel away, and the other also between
letters that would be joined. `before` is read from its end. -/
def joinersSeen (before : List Char) : List Char → Bool
  | [] => true
  | c :: cs =>
    let behindSign := (before.head?.map markClass) == some 9
    let seen :=
      if c == joiner then behindSign
      else if c == nonJoiner then
        behindSign ||
          (beginsWith [joinedLetters, joinedAfter] before && beginsWith [joinedLetters, joinedBefore] cs)
      else true
    seen && joinersSeen (c :: before) cs

/-! ### Labels -/

/-- A label that is written in base 36 begins with this. -/
def base36Mark : List Char := ['x', 'n', '-', '-']

/-- The most digits of a label that are read. -/
def maxDigits : Nat := 2000

/-- The most characters of a label that are written. -/
def maxLabel : Nat := 1000

/-- The label with its characters beyond ASCII. A label in base 36 must be the one writing of such. -/
def shownLabel? (label : List Char) : Option (List Char) :=
  if base36Mark.isPrefixOf label then
    let digits := label.drop base36Mark.length
    if digits.length > maxDigits then none
    else
      match readLabel? digits with
      | none => none
      | some shown =>
        if shown.any (·.toNat ≥ 0x80) && shown.all isOwnWriting && isComposed shown then some shown else none
  else some label

/-- A label that cannot be taken for another, apart from its direction. -/
def isClear (label : List Char) : Bool := !(label.head?.any isMark) && joinersSeen [] label

/-- A label of a folded name in ASCII. -/
def writtenLabel? (label : List Char) : Option (List Char) :=
  if label.any (·.toNat ≥ 0x80) && label.length > maxLabel then none else some (asciiLabel label)

/-- A name in small ASCII letters. -/
def asciiName? (bytes : List UInt8) : Option String := do
  let labels := pieces '.' (← folded? (← (Utf8.decode bytes).mapM id))
  let shown ← labels.mapM shownLabel?
  if shown.all isClear && (!shown.any hasLeftward || shown.all keepsDirection) then
    return String.ofList (List.intercalate ['.'] (← labels.mapM writtenLabel?))
  else none

end Pagewalk.Url
