import Pagewalk.Text.CaseTable
import Pagewalk.Text.CodeUnits

/-!
# Texts in small and in capital letters

Most letters change by themselves. The capital sigma has another small letter at the end of a word, so what stands
around it counts.
-/

namespace Pagewalk.Text

/-- The first of some characters that matters has a case. -/
def beginsCased (cs : List Char) : Bool :=
  match cs.dropWhile caselessSigns.has with
  | c :: _ => casedLetters.has c
  | [] => false

/-- The small letter of a capital sigma between these characters; those before it are read from their end. -/
def smallSigma (before after : List Char) : Char :=
  if beginsCased before && !beginsCased after then 'ς' else 'σ'

/-- A text in small letters; what was read before is read from its end. -/
def toSmall (before : List Char) : List Char → List Char
  | [] => []
  | c :: cs =>
    (if c == 'Σ' then [smallSigma before cs] else ((smallLetters.get? c).map String.toList).getD [c]) ++
      toSmall (c :: before) cs

/-- A text in capital letters. -/
def toCapital (cs : List Char) : List Char :=
  cs.flatMap fun c => ((capitalLetters.get? c).map String.toList).getD [c]

/-- Changes each run of characters between halves that stand alone; `run` is read from its end. -/
def changeRuns (change : List Char → List Char) (run : List Char) : List (Except UInt16 Char) → List UInt16
  | [] => (change run.reverse).flatMap unitsOfChar
  | .ok c :: us => changeRuns change (c :: run) us
  | .error half :: us => (change run.reverse).flatMap unitsOfChar ++ half :: changeRuns change [] us

namespace CodeUnits

/-- The text in small letters. -/
def small (u : CodeUnits) : CodeUnits := ⟨(changeRuns (toSmall []) [] (decodeUnits u.val.toList)).toArray⟩

/-- The text in capital letters. -/
def capital (u : CodeUnits) : CodeUnits := ⟨(changeRuns toCapital [] (decodeUnits u.val.toList)).toArray⟩

end CodeUnits

end Pagewalk.Text
