import Mathlib.Tactic.Common
import Mathlib.Tactic.IntervalCases
import Pagewalk.Proofs.Text.Encodings
import Pagewalk.Script.Setup

/-!
# Handed-over texts

A text is handed over to a script as a literal between double quotes. The literal is always one whole literal, and
what is read is the text itself unless a NUL stands right before an octal digit: the escape of a NUL is a backslash
and a zero, and where octal digits follow, up to two of them are read as part of it.
-/

namespace Pagewalk.Script

open Text

namespace Literal

/-! ### Hexadecimal digits -/

theorem hexValue_digitChar {d : Nat} (h : d < 16) : hexValue? d.digitChar = some d := by
  have all : ∀ d : Fin 16, hexValue? d.val.digitChar = some d.val := by decide
  exact all ⟨d, h⟩

theorem natural_append {ds : List Char} {n d : Nat} (h : natural? 16 ds = some n) (hd : d < 16) :
    natural? 16 (ds ++ [d.digitChar]) = some (n * 16 + d) := by
  rw [natural?] at h ⊢
  split at h
  · cases h
  · rw [if_neg (by simp), List.foldl_append, h, List.foldl_cons, List.foldl_nil, hexValue_digitChar hd]
    simp [hd]

theorem natural_toDigits (n : Nat) : natural? 16 (Nat.toDigits 16 n) = some n := by
  induction n using Nat.strongRecOn with
  | ind n ih =>
    rw [Nat.toDigits_eq_if (by decide)]
    split
    next small =>
      simp [natural?, hexValue_digitChar small, small]
    next large =>
      rw [natural_append (ih (n / 16) (by omega)) (Nat.mod_lt n (by decide)), Nat.mul_comm, Nat.div_add_mod]

theorem hexValue_of_mem_toDigits {c : Char} {n : Nat} (h : c ∈ Nat.toDigits 16 n) : (hexValue? c).isSome := by
  induction n using Nat.strongRecOn with
  | ind n ih =>
    rw [Nat.toDigits_eq_if (by decide)] at h
    split at h
    next small =>
      rw [List.mem_singleton.mp h, hexValue_digitChar small]
      rfl
    next large =>
      rcases List.mem_append.mp h with h | h
      · exact ih (n / 16) (by omega) h
      · rw [List.mem_singleton.mp h, hexValue_digitChar (Nat.mod_lt n (by decide))]
        rfl

theorem plusNatural_toDigits (n : Nat) : plusNatural? 16 (Nat.toDigits 16 n) = some n := by
  have noPlus : ∀ ds, Nat.toDigits 16 n ≠ '+' :: ds := fun ds eq =>
    absurd (hexValue_of_mem_toDigits (eq ▸ List.mem_cons_self : '+' ∈ Nat.toDigits 16 n)) (by decide)
  rw [plusNatural?.eq_def]
  split
  next ds eq => exact absurd eq (noPlus ds)
  next => exact natural_toDigits n

theorem unitsOfPoint_toNat (c : Char) : unitsOfPoint c.toNat = unitsOfChar c := by
  have apart : c.toNat < 0xD800 ∨ 0xDFFF < c.toNat := c.valid.imp id And.left
  rw [unitsOfPoint, if_neg, Char.ofNat_toNat]
  simp only [Bool.and_eq_true, decide_eq_true_eq]
  omega

/-- The number between braces is read as its character. -/
theorem escape_braced {cs rest : List Char} {n : Nat} (stops : cs.dropWhile (· != '\x7d') = '\x7d' :: rest)
    (number : plusNatural? 16 (cs.takeWhile (· != '\x7d')) = some n) (valid : n < 0x110000) :
    escape false ('u' :: '\x7b' :: cs) = .ok (unitsOfPoint n, rest) := by
  rw [escape, stops, number]
  dsimp only
  rw [if_neg (by omega), if_neg (by omega)]

/-- The escape of a character by its number is read as the character. -/
theorem escape_point (c : Char) (rest : List Char) :
    escape false ('u' :: '\x7b' :: (Nat.toDigits 16 c.toNat ++ '\x7d' :: rest)) = .ok (unitsOfChar c, rest) := by
  have valid : c.toNat < 0x110000 := c.valid.elim (fun h => Nat.lt_trans h (by decide)) And.right
  have digits : ∀ d ∈ Nat.toDigits 16 c.toNat, (d != '\x7d') = true := fun d hd => by
    refine bne_iff_ne.mpr fun eq => ?_
    exact absurd (hexValue_of_mem_toDigits (eq ▸ hd)) (by decide)
  rw [← unitsOfPoint_toNat]
  refine escape_braced ?_ ?_ valid
  · rw [List.dropWhile_append_of_pos digits]
    rfl
  · rw [List.takeWhile_append_of_pos digits, List.takeWhile_cons_of_neg (by decide), List.append_nil,
      plusNatural_toDigits]

/-! ### Characters that are not NUL -/

variable {us : List UInt16} {cs more : List Char} {acc : Array UInt16}

theorem readUnits_escape (h : escape false cs = .ok (us, more)) (shorter : more.length ≤ cs.length) :
    readUnits false '"' ('\\' :: cs) acc = readUnits false '"' more (acc ++ us.toArray) := by
  rw [readUnits, if_neg (by decide), if_pos (by decide), h]
  exact if_pos (Nat.lt_succ_of_le shorter)

theorem readUnits_plain {c : Char} (hc : c ≠ '"' ∧ c ≠ '\\' ∧ c ≠ '\n' ∧ c ≠ '\r') :
    readUnits false '"' (c :: cs) acc = readUnits false '"' cs (acc ++ (unitsOfChar c).toArray) := by
  rw [readUnits]
  simp only [beq_iff_eq, Bool.or_eq_true, hc.1, hc.2.1, hc.2.2.1, hc.2.2.2, or_self, if_false]

/-- A character that is not NUL is read back, whatever follows it. -/
theorem readUnits_escapeChar {c : Char} (hc : c ≠ '\x00') :
    readUnits false '"' (escapeChar c ++ cs) acc = readUnits false '"' cs (acc ++ (unitsOfChar c).toArray) := by
  rw [escapeChar.eq_def]
  split
  next => exact absurd rfl hc
  next => exact readUnits_escape rfl (Nat.le_succ _)
  next => exact readUnits_escape rfl (Nat.le_succ _)
  next => exact readUnits_escape rfl (Nat.le_succ _)
  next => exact readUnits_escape rfl (Nat.le_succ _)
  next => exact readUnits_escape rfl (Nat.le_succ _)
  next nul tab lineFeed carriageReturn quote backslash =>
    split
    next shown => exact readUnits_plain ⟨quote, backslash, lineFeed, carriageReturn⟩
    next hidden =>
      rw [List.append_assoc, List.append_assoc]
      exact readUnits_escape (escape_point c cs) (by simp; omega)

/-! ### Octal digits behind a NUL -/

/-- Characters begin with an octal digit. -/
def startsOctal (cs : List Char) : Bool := cs.head?.any isOctal

theorem octalEscape_none (d : Char) (h : startsOctal cs = false) :
    octalEscape d cs = ((octalValue d).toUInt16, cs) := by
  match cs, h with
  | [], _ => rfl
  | [e], h =>
    change isOctal e = false at h
    rw [octalEscape, h]
    rfl
  | e :: f :: rest, h =>
    change isOctal e = false at h
    rw [octalEscape, h]
    rfl

theorem octalEscape_one {e : Char} (he : isOctal e = true) (h : startsOctal cs = false) :
    octalEscape '0' (e :: cs) = ((octalValue e).toUInt16, cs) := by
  match cs, h with
  | [], _ => rw [octalEscape, if_pos he, show octalValue '0' = 0 from rfl, Nat.zero_mul, Nat.zero_add]
  | f :: rest, h =>
    change isOctal f = false at h
    rw [octalEscape, if_pos he, h, Bool.false_and, if_neg Bool.false_ne_true, show octalValue '0' = 0 from rfl,
      Nat.zero_mul, Nat.zero_add]

theorem octalEscape_two {e f : Char} (he : isOctal e = true) (hf : isOctal f = true) (cs : List Char) :
    octalEscape '0' (e :: f :: cs) = ((octalValue e * 8 + octalValue f).toUInt16, cs) := by
  rw [octalEscape, if_pos he, hf, if_pos (by decide), show octalValue '0' = 0 from rfl, Nat.zero_mul, Nat.zero_add]

theorem escapeChar_of_isOctal {c : Char} (h : isOctal c = true) : isShown c = true ∧ escapeChar c = [c] := by
  simp only [isOctal, Bool.and_eq_true, decide_eq_true_eq] at h
  have low : 48 ≤ c.toNat := h.1
  have high : c.toNat ≤ 55 := h.2
  rw [← Char.ofNat_toNat c]
  interval_cases c.toNat <;> decide

/-- What a character is written as begins with an octal digit only if the character is one. -/
theorem startsOctal_escapeChar (c : Char) (cs : List Char) : startsOctal (escapeChar c ++ cs) = isOctal c := by
  rw [escapeChar.eq_def]
  split
  case h_7 =>
    split
    next => rfl
    next hidden => exact (Bool.eq_false_iff.mpr fun octal => hidden (escapeChar_of_isOctal octal).1).symm
  all_goals rfl

theorem startsOctal_quoted (cs rest : List Char) :
    startsOctal (cs.flatMap escapeChar ++ '"' :: rest) = startsOctal cs := by
  cases cs with
  | nil => rfl
  | cons c cs =>
    rw [List.flatMap_cons, List.append_assoc, startsOctal_escapeChar]
    rfl

/-- The escape of a NUL takes in the octal digits that stand behind the NUL. -/
theorem octalEscape_quoted (cs rest : List Char) :
    octalEscape '0' (cs.flatMap escapeChar ++ '"' :: rest) =
      ((octalEscape '0' cs).1, (octalEscape '0' cs).2.flatMap escapeChar ++ '"' :: rest) := by
  match cs with
  | [] => exact octalEscape_none '0' (startsOctal_quoted [] rest)
  | e :: cs =>
    cases he : isOctal e with
    | false => rw [octalEscape_none '0' ((startsOctal_quoted (e :: cs) rest).trans he), octalEscape_none '0' (show startsOctal (e :: cs) = false from he)]
    | true =>
      rw [List.flatMap_cons, (escapeChar_of_isOctal he).2, List.append_assoc, List.singleton_append]
      match cs with
      | [] => rw [octalEscape_one he (startsOctal_quoted [] rest), octalEscape_one he rfl]
      | f :: cs =>
        cases hf : isOctal f with
        | false =>
          rw [octalEscape_one he ((startsOctal_quoted (f :: cs) rest).trans hf), 
            octalEscape_one he (show startsOctal (f :: cs) = false from hf)]
        | true =>
          rw [List.flatMap_cons, (escapeChar_of_isOctal hf).2, List.append_assoc, List.singleton_append,
            octalEscape_two he hf, octalEscape_two he hf]

theorem octalEscape_length (d : Char) (cs : List Char) : (octalEscape d cs).2.length ≤ cs.length := by
  match cs with
  | [] => exact Nat.le_refl _
  | [e] =>
    rw [octalEscape]
    split <;> simp
  | e :: f :: rest =>
    rw [octalEscape]
    split_ifs <;> simp only [List.length_cons] <;> omega

theorem octalValue_lt {e : Char} (he : isOctal e = true) : octalValue e < 8 := by
  simp only [isOctal, Bool.and_eq_true, decide_eq_true_eq] at he
  have high : e.toNat ≤ 55 := he.2
  have zero : '0'.toNat = 48 := rfl
  rw [octalValue, zero]
  omega

/-- The escape of a NUL stands for a NUL, or takes in octal digits and stands for a small unit. -/
theorem octalEscape_cases (cs : List Char) :
    startsOctal cs = false ∧ octalEscape '0' cs = (0, cs) ∨
      startsOctal cs = true ∧ (octalEscape '0' cs).1.toNat < 64 ∧ (octalEscape '0' cs).2.length < cs.length := by
  cases h : startsOctal cs with
  | false => exact .inl ⟨rfl, octalEscape_none '0' h⟩
  | true =>
    refine .inr ⟨rfl, ?_⟩
    have small {n : Nat} (hn : n < 64) : n.toUInt16.toNat < 64 := by
      rw [show n.toUInt16.toNat = n from UInt16.toNat_ofNat_of_lt' (show n < 0x10000 by omega)]
      exact hn
    match cs, h with
    | e :: cs, he =>
      change isOctal e = true at he
      have first := octalValue_lt he
      cases next : startsOctal cs with
      | false =>
        rw [octalEscape_one he next]
        exact ⟨small (by omega), Nat.lt_succ_self _⟩
      | true =>
        match cs, next with
        | f :: cs, hf =>
          change isOctal f = true at hf
          have second := octalValue_lt hf
          rw [octalEscape_two he hf]
          exact ⟨small (by omega), by simp only [List.length_cons]; omega⟩

/-- The unit of the escape of a NUL is that of a character. -/
theorem unitsOfChar_octalEscape (cs : List Char) :
    unitsOfChar (Char.ofNat (octalEscape '0' cs).1.toNat) = [(octalEscape '0' cs).1] := by
  have small : (octalEscape '0' cs).1.toNat < 64 := by
    rcases octalEscape_cases cs with ⟨-, escape⟩ | ⟨-, small, -⟩
    · rw [escape]
      exact Nat.zero_lt_succ _
    · exact small
  generalize (octalEscape '0' cs).1 = u at small ⊢
  have all : ∀ n < 64, (Char.ofNat n).toNat = n := by decide
  have valid := all u.toNat small
  rw [unitsOfChar, valid, if_pos (by omega)]
  exact congrArg (fun u => [u]) UInt16.ofNat_toNat

theorem escape_nul (cs : List Char) :
    escape false ('0' :: cs) = .ok ([(octalEscape '0' cs).1], (octalEscape '0' cs).2) := rfl

end Literal

/-! ### Texts -/

/-- What is read of characters that were handed over: the escape of a NUL takes in octal digits behind it. -/
def reread : List Char → List Char
  | [] => []
  | c :: cs =>
    if c = '\x00' then
      Char.ofNat (Literal.octalEscape '0' cs).1.toNat :: reread (Literal.octalEscape '0' cs).2
    else c :: reread cs
termination_by cs => cs.length
decreasing_by
  · exact Nat.lt_succ_of_le (Literal.octalEscape_length _ _)
  · exact Nat.lt_succ_self _

theorem reread_length_le (cs : List Char) : (reread cs).length ≤ cs.length := by
  induction cs using reread.induct with
  | case1 => rw [reread]
  | case2 cs ih =>
    rw [reread, if_pos rfl]
    exact Nat.succ_le_succ (Nat.le_trans ih (Literal.octalEscape_length _ _))
  | case3 c cs hc ih =>
    rw [reread, if_neg hc]
    exact Nat.succ_le_succ ih

/-- A NUL stands right before an octal digit. -/
def HasOctalNul (cs : List Char) : Prop := ∃ d, Literal.isOctal d = true ∧ ['\x00', d] <:+: cs

theorem hasOctalNul_cons {c : Char} {cs : List Char} :
    HasOctalNul (c :: cs) ↔ c = '\x00' ∧ Literal.startsOctal cs = true ∨ HasOctalNul cs := by
  constructor
  · rintro ⟨d, hd, within⟩
    rcases List.infix_cons_iff.mp within with first | later
    · obtain ⟨rfl, rest⟩ := List.cons_prefix_cons.mp first
      obtain ⟨more, rfl⟩ := rest
      exact .inl ⟨rfl, hd⟩
    · exact .inr ⟨d, hd, later⟩
  · rintro (⟨rfl, starts⟩ | ⟨d, hd, later⟩)
    · match cs, starts with
      | d :: cs, hd => exact ⟨d, hd, ⟨[], cs, rfl⟩⟩
    · exact ⟨d, hd, List.infix_cons later⟩

/-- Characters are read as themselves unless a NUL stands right before an octal digit. -/
theorem reread_eq_iff (cs : List Char) : reread cs = cs ↔ ¬HasOctalNul cs := by
  induction cs using reread.induct with
  | case1 =>
    rw [reread]
    simp [HasOctalNul]
  | case2 cs ih =>
    rw [reread, if_pos rfl, hasOctalNul_cons]
    rcases Literal.octalEscape_cases cs with ⟨starts, escape⟩ | ⟨starts, -, shorter⟩
    · rw [escape] at ih ⊢
      simp only [starts, Bool.false_eq_true, and_false, false_or, ← ih]
      exact ⟨fun h => (List.cons.inj h).2, fun h => congrArg (_ :: ·) h⟩
    · refine iff_of_false (fun eq => ?_) fun none => none (.inl ⟨rfl, starts⟩)
      have := reread_length_le (Literal.octalEscape '0' cs).2
      rw [(List.cons.inj eq).2] at this
      omega
  | case3 c cs hc ih =>
    rw [reread, if_neg hc, hasOctalNul_cons]
    simp only [hc, false_and, false_or, ← ih, List.cons.injEq, true_and]

/-- What was quoted is read up to the closing mark. -/
theorem readUnits_quoted (cs rest : List Char) (acc : Array UInt16) :
    Literal.readUnits false '"' (cs.flatMap escapeChar ++ '"' :: rest) acc =
      .ok (⟨acc ++ ((reread cs).flatMap unitsOfChar).toArray⟩, rest) := by
  induction cs using reread.induct generalizing acc with
  | case1 =>
    rw [reread, List.flatMap_nil, List.nil_append, Literal.readUnits, if_pos (by decide)]
    simp
  | case2 cs ih =>
    have shorter := Literal.octalEscape_length '0' (cs.flatMap escapeChar ++ '"' :: rest)
    have escape := Literal.escape_nul (cs.flatMap escapeChar ++ '"' :: rest)
    rw [Literal.octalEscape_quoted] at shorter escape
    rw [List.flatMap_cons, List.append_assoc]
    refine (Literal.readUnits_escape escape (Nat.le_succ_of_le shorter)).trans ?_
    rw [ih, reread, if_pos rfl, List.flatMap_cons, Literal.unitsOfChar_octalEscape]
    simp
  | case3 c cs hc ih =>
    rw [List.flatMap_cons, List.append_assoc, Literal.readUnits_escapeChar hc, ih, reread, if_neg hc,
      List.flatMap_cons]
    simp

/-- A quoted text is one whole literal. -/
theorem value_quote (s : String) :
    Literal.value? (Text.quote s) = some (CodeUnits.ofString (String.ofList (reread s.toList))) := by
  have read := readUnits_quoted s.toList [] #[]
  rw [Literal.value?, Text.quote, String.toList_ofList]
  simp only [List.cons_append, read, CodeUnits.ofString, CodeUnits.ofChars, String.toList_ofList, Array.empty_append]

theorem handedOver_eq (s : String) : handedOver s = CodeUnits.ofString (String.ofList (reread s.toList)) := by
  rw [handedOver, value_quote]
  rfl

/-- A text that is handed over is one whole literal. It is read as it is, and as a script it is read as it is,
unless a NUL stands right before an octal digit, and then it is read as another text. -/
theorem handedOver_exact_iff (s : String) :
    Literal.value? (Text.quote s) = some (handedOver s) ∧
      (handedOver s = CodeUnits.ofString s ↔ ¬HasOctalNul s.toList) ∧
      ((handedOver s).toLossyText = s ↔ ¬HasOctalNul s.toList) := by
  have same : String.ofList (reread s.toList) = s ↔ ¬HasOctalNul s.toList := by
    rw [← reread_eq_iff, ← String.toList_inj, String.toList_ofList]
  refine ⟨?_, ?_, ?_⟩
  · rw [value_quote, handedOver_eq]
  · rw [handedOver_eq, CodeUnits.ofString_injective.eq_iff, same]
  · rw [handedOver_eq, CodeUnits.toLossyText_ofString, same]

/-- Where a NUL stands right before a one, another script is read. -/
theorem handedOver_octalNul :
    handedOver "'\x001'.length" = CodeUnits.ofString "'\x01'.length" ∧
      handedOver "'\x001'.length" ≠ CodeUnits.ofString "'\x001'.length" := by
  decide +kernel

end Pagewalk.Script
