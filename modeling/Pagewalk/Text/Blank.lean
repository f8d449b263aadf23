/-!
# Blank characters and the letter case of ASCII

Two classes of blank are in use. `isBlank` is the `White_Space` property of Unicode and belongs to labels, log
levels and titles; `isSpace` is the five ASCII blanks of markup. Trimming and splitting are written once over a
list of characters and take the class from Unicode. Letter case is ASCII only, as in markup names.
-/

namespace Pagewalk.Text

/-- A character with the Unicode property `White_Space`. -/
def isBlank (c : Char) : Bool :=
  let n := c.toNat
  (0x09 ≤ n && n ≤ 0x0D) || n == 0x20 || n == 0x85 || n == 0xA0 || n == 0x1680 ||
    (0x2000 ≤ n && n ≤ 0x200A) || n == 0x2028 || n == 0x2029 || n == 0x202F || n == 0x205F || n == 0x3000

/-- One of the five ASCII blanks of markup: tab, line feed, form feed, carriage return, space. -/
def isSpace (c : Char) : Bool :=
  c == '\t' || c == '\n' || c == '\x0c' || c == '\r' || c == ' '

theorem isBlank_of_isWhitespace {c : Char} (h : c.isWhitespace = true) : isBlank c = true := by
  simp only [Char.isWhitespace, Bool.or_eq_true, decide_eq_true_eq] at h
  rcases h with ((rfl | rfl) | rfl) | rfl <;> rfl

theorem isBlank_of_isSpace {c : Char} (h : isSpace c = true) : isBlank c = true := by
  simp only [isSpace, Bool.or_eq_true, beq_iff_eq] at h
  rcases h with (((rfl | rfl) | rfl) | rfl) | rfl <;> rfl

/-! ### Trimming and splitting -/

/-- The text without its leading blanks. -/
def trimStart (cs : List Char) : List Char := cs.dropWhile isBlank

/-- The text without its trailing blanks. -/
def trimEnd (cs : List Char) : List Char := (cs.reverse.dropWhile isBlank).reverse

/-- The text without the blanks at either end. -/
def trim (s : String) : String := String.ofList (trimEnd (trimStart s.toList))

/-- The text without the given character at either end, however often it stands there. -/
def trimMatches (c : Char) (s : String) : String :=
  String.ofList (((s.toList.dropWhile (· == c)).reverse.dropWhile (· == c)).reverse)

/-- The non-empty runs between separators, in order. -/
def fields (sep : Char → Bool) : List Char → List (List Char)
  | [] => []
  | c :: cs =>
    if sep c then fields sep cs
    else match cs with
      | [] => [[c]]
      | d :: _ =>
        if sep d then [c] :: fields sep cs
        else match fields sep cs with
          | [] => [[c]]
          | w :: ws => (c :: w) :: ws

/-- The words of a text, split at Unicode blanks. -/
def words (s : String) : List String := (fields isBlank s.toList).map String.ofList

/-- The words of a text, split at the blanks of markup. -/
def spaceWords (s : String) : List String := (fields isSpace s.toList).map String.ofList

/-- The pieces between occurrences of a separator; there is always at least one. -/
def pieces (sep : Char) : List Char → List (List Char)
  | [] => [[]]
  | c :: cs =>
    if c == sep then [] :: pieces sep cs
    else match pieces sep cs with
      | [] => [[c]]
      | p :: ps => (c :: p) :: ps

/-- What stands before and after the first occurrence of a character, if it occurs. -/
def splitOnce (sep : Char) : List Char → Option (List Char × List Char)
  | [] => none
  | c :: cs => if c == sep then some ([], cs) else (splitOnce sep cs).map fun (a, b) => (c :: a, b)

/-! ### Letter case -/

/-- The text with its ASCII capitals made small. -/
def lower (s : String) : String := s.map Char.toLower

/-- The text with its small ASCII letters made capitals. -/
def upper (s : String) : String := s.map Char.toUpper

/-- Equality up to the case of ASCII letters. -/
def sameLetters (a b : String) : Bool := lower a == lower b

/-- The digits of a number in a base up to sixteen, small letters above nine, at least `width` of them. -/
def digits (base width n : Nat) : String :=
  let ds := Nat.toDigits base n
  String.ofList (List.replicate (width - ds.length) '0' ++ ds)

end Pagewalk.Text
