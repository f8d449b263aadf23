/-!
# Classes of characters by ranges

A class of characters is kept as the code points at which membership changes, in rising order: the first begins the
first run of members, the second ends it, and so on. Tables write the distances between these points in base
sixteen, so that a table is a few lines of text that are read once.
-/

namespace Pagewalk.Text

/-- The code points at which membership of a class changes, in rising order. -/
structure Ranges where
  changes : Array Nat

namespace Ranges

/-- The value of a digit of base sixteen; anything else counts as zero. -/
def digitValue (c : Char) : Nat :=
  if c.isDigit then c.toNat - '0'.toNat
  else if 'a' ≤ c && c ≤ 'f' then c.toNat - 'a'.toNat + 10
  else 0

/-- The number that small digits of base sixteen write. -/
def hexValue (s : String) : Nat := s.foldl (fun n c => n * 16 + digitValue c) 0

/-- The words of some rows. -/
def wordsOf (rows : List String) : List String := rows.flatMap (·.splitOn " ")

/-- The class whose points of change lie at these distances from each other. -/
def ofSteps (rows : List String) : Ranges :=
  ⟨((wordsOf rows).foldl (fun (acc : Nat × Array Nat) w =>
    let n := acc.1 + hexValue w
    (n, acc.2.push n)) (0, #[])).2⟩

/-- How many of the entries from `lo` up to `hi` of a rising array are at most `n`, where all before `lo` are. -/
def countUpTo (xs : Array Nat) (n lo hi : Nat) : Nat :=
  if lo < hi then
    let mid := (lo + hi) / 2
    if xs.getD mid 0 ≤ n then countUpTo xs n (mid + 1) hi else countUpTo xs n lo mid
  else lo
termination_by hi - lo
decreasing_by all_goals omega

/-- The number of points of change up to a code point; it is odd for a member. -/
def rank (r : Ranges) (n : Nat) : Nat := countUpTo r.changes n 0 r.changes.size

/-- The character is in the class. -/
def has (r : Ranges) (c : Char) : Bool := r.rank c.toNat % 2 == 1

end Ranges

/-! ### Characters that stand for texts

A table of replacements has rows in rising order: the first character of a row, the distance from each of its
characters to the next, and the texts that they stand for. A character is looked up in the last row that does not
begin after it.
-/

/-- Texts for a first character and for those that follow it at a distance. -/
structure ReplacementRow where
  first : Nat
  step : Nat
  words : Array String

/-- Rows of texts that characters stand for, and where they begin, in rising order. -/
structure Replacements where
  firsts : Array Nat
  rows : Array ReplacementRow

namespace Replacements

/-- The replacements of some rows, in which the texts are parted by spaces. -/
def ofRows (rows : List (Nat × Nat × String)) : Replacements :=
  ⟨(rows.map (·.1)).toArray, (rows.map fun (first, step, words) => ⟨first, step, (words.splitOn " ").toArray⟩).toArray⟩

/-- The text of a row for a character. -/
def rowText? (row : ReplacementRow) (n : Nat) : Option String :=
  if (n - row.first) % row.step == 0 then row.words[(n - row.first) / row.step]? else none

/-- The text that a character stands for, if it is not itself. -/
def get? (r : Replacements) (c : Char) : Option String :=
  match Ranges.countUpTo r.firsts c.toNat 0 r.firsts.size with
  | 0 => none
  | i + 1 => r.rows[i]?.bind (rowText? · c.toNat)

end Replacements

end Pagewalk.Text
