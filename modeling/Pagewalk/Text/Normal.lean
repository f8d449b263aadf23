import Pagewalk.Text.MarkTable

/-!
# Composed texts

The same letters with marks can be written in several ways. A text is composed by taking its characters apart,
putting the marks behind each character in the order of their classes, and putting together what can be.
-/

namespace Pagewalk.Text

/-! ### Korean syllables -/

/-- A syllable is a first sound, a vowel and maybe a last sound; its number counts in this order. -/
def isSyllable (n : Nat) : Bool := 0xAC00 ≤ n && n < 0xAC00 + 11172

/-- The sounds of a syllable. -/
def soundsOf (n : Nat) : List Char :=
  let i := n - 0xAC00
  let pair := [Char.ofNat (0x1100 + i / 588), Char.ofNat (0x1161 + i % 588 / 28)]
  if i % 28 = 0 then pair else pair ++ [Char.ofNat (0x11A7 + i % 28)]

/-- The syllable of a first sound and a vowel, or of a syllable without a last sound and that sound. -/
def syllable? (a b : Nat) : Option Char :=
  if 0x1100 ≤ a && a < 0x1113 && 0x1161 ≤ b && b < 0x1176 then
    some (Char.ofNat (0xAC00 + ((a - 0x1100) * 21 + (b - 0x1161)) * 28))
  else if isSyllable a && (a - 0xAC00) % 28 = 0 && 0x11A8 ≤ b && b < 0x11C3 then
    some (Char.ofNat (a + (b - 0x11A7)))
  else none

/-! ### Taking apart -/

/-- The two characters that a character is put together from. -/
def pairOf? (c : Char) : Option (Char × Char) :=
  compositions.findSome? fun row =>
    match row.wholes.idxOf? c with
    | some i => row.firsts[i]?.map fun a => (a, row.second)
    | none => none

/-- The characters that a character is put together from; nothing is put together from more than `fuel` others and
itself. -/
def apart : Nat → Char → List Char
  | 0, c => [c]
  | fuel + 1, c =>
    match pairOf? c with
    | some (a, b) => apart fuel a ++ [b]
    | none => [c]

/-- A character taken apart. -/
def takeApart (c : Char) : List Char :=
  if c.toNat < 0xC0 then [c] else if isSyllable c.toNat then soundsOf c.toNat else apart 4 c

/-- The marks at each place in the order of their classes. -/
def orderMarks : List Char → List Char → List Char
  | pending, [] => pending.mergeSort fun a b => markClass a ≤ markClass b
  | pending, c :: cs =>
    if markClass c = 0 then (pending.mergeSort fun a b => markClass a ≤ markClass b) ++ c :: orderMarks [] cs
    else orderMarks (pending ++ [c]) cs

/-! ### Putting together -/

/-- The character that two are together. -/
def together? (a b : Char) : Option Char :=
  (syllable? a.toNat b.toNat).orElse fun _ =>
    compositions.findSome? fun row =>
      if row.second == b then (row.firsts.idxOf? a).bind fun i => row.wholes[i]? else none

/-- What is put together: the finished characters from the last to the first, the character to which others are
added, and the marks that stay behind it, with the class of the last. -/
structure Joining where
  done : List Char
  first? : Option Char
  marks : List Char
  lastClass : Nat

/-- All characters of a joining. -/
def Joining.all (j : Joining) : List Char := j.done.reverse ++ j.first?.toList ++ j.marks

/-- Takes one character more: it is added to the first one unless a mark of the same class stands between. -/
def Joining.take (j : Joining) (c : Char) : Joining :=
  let cls := markClass c
  let whole? := j.first?.bind fun a => if j.marks.isEmpty || j.lastClass < cls then together? a c else none
  match whole? with
  | some w => { j with first? := some w }
  | none =>
    if cls = 0 then ⟨j.all.reverse, some c, [], 0⟩
    else { j with marks := j.marks ++ [c], lastClass := cls }

/-- A text with all put together that can be. -/
def compose (cs : List Char) : List Char :=
  ((orderMarks [] (cs.flatMap takeApart)).foldl Joining.take ⟨[], none, [], 0⟩).all

/-- Nothing in a text has to be put together or in order. -/
def isComposed (cs : List Char) : Bool := compose cs == cs

end Pagewalk.Text
