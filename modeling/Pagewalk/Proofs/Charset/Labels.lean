import Mathlib.Data.List.DropRight
import Pagewalk.Charset.Label

/-!
# Where a label stands

A label stands behind `charset=`: in quotes, where it is trimmed, or up to a character that ends it. The first place of a
page at which a label can be read gives the label of the page, and the first parameter of a media type that is a charset and
not empty gives the label of the media type.
-/

namespace Pagewalk.Charset

open Text

/-! ### What is said -/

/-- A label in quotes stands at the start of a text, with blanks around it or none. -/
def Quoted (cs label : List Char) : Prop :=
  ∃ q inside rest, (q = '"' ∨ q = '\'') ∧ cs = q :: (inside ++ q :: rest) ∧ q ∉ inside ∧ trimEnd (trimStart inside) = label

/-- A label without quotes stands at the start of a text, up to a character that ends it. -/
def Bare (cs label : List Char) : Prop :=
  ∃ rest, cs = label ++ rest ∧ (∀ c ∈ label, endsLabel c = false) ∧ ∀ c ∈ rest.head?, endsLabel c = true

/-- A text begins with `charset=` in any case, blanks or none, and a label that is not empty. -/
def LabelAt (cs : List Char) (label : String) : Prop :=
  ∃ word blanks after, cs = word ++ (blanks ++ after) ∧ word.map Char.toLower = "charset=".toList ∧
    (∀ c ∈ blanks, isBlank c = true) ∧ label ≠ "" ∧ (Quoted after label.toList ∨ Bare after label.toList)

/-- A label stands in a text, and none can be read further in front. -/
def FirstLabel (cs : List Char) (label : String) : Prop :=
  ∃ rest, rest <:+ cs ∧ LabelAt rest label ∧ ∀ more, more <:+ cs → rest.length < more.length → ∀ l, ¬ LabelAt more l

/-- A parameter of a media type is a charset, and its value is this label, which is not empty. -/
def Declares (part : List Char) (label : String) : Prop :=
  ∃ name value, part = name ++ '=' :: value ∧ '=' ∉ name ∧ sameLetters (trim (String.ofList name)) "charset" = true ∧
    label = trimMatches '\'' (trimMatches '"' (trim (String.ofList value))) ∧ label ≠ ""

/-- A parameter of a media type declares a label, and none before it declares one. -/
def FirstDeclared (mediaType label : String) : Prop :=
  ∃ before part after, (mediaType.toList.splitOn ';').tail = before ++ part :: after ∧ Declares part label ∧
    ∀ p ∈ before, ∀ l, ¬ Declares p l

/-! ### What is read -/

section Reading
variable {c : Char} {cs ps a b after : List Char} {label mediaType : String} {part : List Char} {body : List UInt8}

theorem splitOnce_eq_some_iff : splitOnce c cs = some (a, b) ↔ cs = a ++ c :: b ∧ c ∉ a := by
  induction cs generalizing a with
  | nil => simp [splitOnce]
  | cons d cs ih =>
    rw [splitOnce]
    by_cases here : d = c
    · subst here
      cases a with
      | nil => simp [eq_comm]
      | cons e a =>
        simp only [beq_self_eq_true, if_true, List.cons_append, List.cons.injEq, List.mem_cons, not_or]
        constructor
        · simp
        · rintro ⟨⟨rfl, -⟩, apart, -⟩
          exact absurd rfl apart
    · rw [if_neg (by simpa using here)]
      cases a with
      | nil => simp [here]
      | cons e a =>
        rw [Option.map_eq_some_iff]
        constructor
        · rintro ⟨⟨a', b'⟩, found, eq⟩
          cases eq
          obtain ⟨rfl, none⟩ := ih.mp found
          exact ⟨rfl, by simp [none, Ne.symm here]⟩
        · rintro ⟨eq, none⟩
          obtain ⟨rfl, rfl⟩ := List.cons.inj eq
          exact ⟨(a, b), ih.mpr ⟨rfl, fun among => none (.tail _ among)⟩, rfl⟩

theorem nonempty?_eq_some_iff : nonempty? cs = some label ↔ label ≠ "" ∧ label.toList = cs := by
  rw [nonempty?]
  constructor
  · intro h
    split at h
    · cases h
    · rename_i some
      cases h
      simp_all
  · rintro ⟨some, rfl⟩
    simp [some]

theorem dropLetters?_eq_some_iff :
    dropLetters? ps cs = some after ↔ ∃ word, cs = word ++ after ∧ word.map Char.toLower = ps := by
  induction ps generalizing cs with
  | nil => simp [dropLetters?, eq_comm]
  | cons p ps ih =>
    cases cs with
    | nil => simp [dropLetters?]
    | cons c cs =>
      rw [dropLetters?]
      constructor
      · intro h
        split at h
        · rename_i same
          obtain ⟨word, rfl, lowered⟩ := ih.mp h
          exact ⟨c :: word, rfl, by rw [List.map_cons, lowered, beq_iff_eq.mp same]⟩
        · cases h
      · rintro ⟨word, eq, lowered⟩
        cases word with
        | nil => cases lowered
        | cons d word =>
          obtain ⟨rfl, rfl⟩ := List.cons.inj eq
          obtain ⟨same, lowered⟩ := List.cons.inj lowered
          rw [if_pos (beq_iff_eq.mpr same)]
          exact ih.mpr ⟨word, rfl, lowered⟩

theorem isBlank_of_quote {q : Char} (h : q = '"' ∨ q = '\'') : isBlank q = false ∧ endsLabel q = true := by
  rcases h with rfl | rfl <;> decide

/-- What a label begins with is no blank. -/
theorem head_of_label (some : label ≠ "") (h : Quoted after label.toList ∨ Bare after label.toList) :
    ∃ c cs, after = c :: cs ∧ isBlank c = false := by
  rcases h with ⟨q, inside, rest, quote, rfl, -⟩ | ⟨rest, rfl, open', -⟩
  · exact ⟨q, _, rfl, (isBlank_of_quote quote).1⟩
  · cases letters : label.toList with
    | nil => exact absurd (String.toList_eq_nil_iff.mp letters) some
    | cons c cs =>
      have inside := open' c (by simp [letters])
      simp only [endsLabel, Bool.or_eq_false_iff] at inside
      exact ⟨c, cs ++ rest, rfl, inside.1.1.1.1.1⟩

theorem bare_iff : Bare cs a ↔ a = cs.takeWhile (!endsLabel ·) := by
  constructor
  · rintro ⟨rest, rfl, inside, ends⟩
    have stop : rest.takeWhile (!endsLabel ·) = [] := by
      cases rest with
      | nil => rfl
      | cons c rest => simp [ends c rfl]
    rw [List.takeWhile_append_of_pos (by simpa using inside), stop, List.append_nil]
  · rintro rfl
    refine ⟨cs.dropWhile (!endsLabel ·), List.takeWhile_append_dropWhile.symm, fun c among => ?_, fun c first => ?_⟩
    · simpa using List.mem_takeWhile_imp among
    · have stop := List.head?_dropWhile_not (!endsLabel ·) cs
      rw [Option.mem_def.mp first] at stop
      simpa using stop

theorem readLabel?_cons (plain : isBlank c = false) : readLabel? (c :: cs) = some label ↔
    label ≠ "" ∧ (Quoted (c :: cs) label.toList ∨ Bare (c :: cs) label.toList) := by
  have trimmed : trimStart (c :: cs) = c :: cs := by simp [trimStart, plain]
  simp only [readLabel?, trimmed, Bool.or_eq_true, beq_iff_eq]
  by_cases quote : c = '"' ∨ c = '\''
  · rw [if_pos quote]
    have ends := (isBlank_of_quote quote).2
    constructor
    · intro h
      split at h
      · cases h
      · rename_i inside rest split
        obtain ⟨rfl, none⟩ := splitOnce_eq_some_iff.mp split
        obtain ⟨some, letters⟩ := nonempty?_eq_some_iff.mp h
        exact ⟨some, .inl ⟨c, inside, rest, quote, rfl, none, letters.symm⟩⟩
    · rintro ⟨some, ⟨q, inside, rest, -, eq, none, letters⟩ | bare⟩
      · obtain ⟨rfl, rfl⟩ := List.cons.inj eq
        rw [splitOnce_eq_some_iff.mpr ⟨rfl, none⟩]
        exact nonempty?_eq_some_iff.mpr ⟨some, letters.symm⟩
      · -- A quote ends a label before its first letter.
        rw [bare_iff, List.takeWhile_cons, if_neg (by simp [ends])] at bare
        exact absurd (String.toList_eq_nil_iff.mp bare) some
  · rw [if_neg quote, nonempty?_eq_some_iff, bare_iff]
    have other : ¬ Quoted (c :: cs) label.toList := by
      rintro ⟨q, _, _, quote', eq, -⟩
      obtain ⟨rfl, -⟩ := List.cons.inj eq
      exact quote quote'
    simp [other]

theorem readLabel?_trimStart (cs : List Char) : readLabel? (trimStart cs) = readLabel? cs := by
  rw [readLabel?, readLabel?]
  simp [trimStart, List.dropWhile_idempotent]

theorem readLabel?_eq_some_iff : readLabel? cs = some label ↔ label ≠ "" ∧ ∃ blanks after, cs = blanks ++ after ∧
    (∀ c ∈ blanks, isBlank c = true) ∧ (Quoted after label.toList ∨ Bare after label.toList) := by
  constructor
  · intro h
    rw [← readLabel?_trimStart, trimStart] at h
    have split : cs = cs.takeWhile isBlank ++ cs.dropWhile isBlank := List.takeWhile_append_dropWhile.symm
    have stop := List.head?_dropWhile_not isBlank cs
    cases behind : cs.dropWhile isBlank with
    | nil =>
      rw [behind] at h
      cases h
    | cons c rest =>
      rw [behind] at h stop split
      obtain ⟨some, said⟩ := (readLabel?_cons stop).mp h
      exact ⟨some, _, _, split, fun c among => List.mem_takeWhile_imp among, said⟩
  · rintro ⟨some, blanks, after, rfl, blank, said⟩
    obtain ⟨c, rest, rfl, plain⟩ := head_of_label some said
    rw [← readLabel?_trimStart, trimStart, List.dropWhile_append_of_pos blank, List.dropWhile_cons_of_neg (by simp [plain])]
    exact (readLabel?_cons plain).mpr ⟨some, said⟩

theorem labelAt?_eq_some_iff : labelAt? cs = some label ↔ LabelAt cs label := by
  rw [labelAt?, Option.bind_eq_some_iff]
  constructor
  · rintro ⟨rest, dropped, read⟩
    obtain ⟨word, rfl, lowered⟩ := dropLetters?_eq_some_iff.mp dropped
    obtain ⟨some, blanks, after, rfl, blank, said⟩ := readLabel?_eq_some_iff.mp read
    exact ⟨word, blanks, after, rfl, lowered, blank, some, said⟩
  · rintro ⟨word, blanks, after, rfl, lowered, blank, some, said⟩
    exact ⟨_, dropLetters?_eq_some_iff.mpr ⟨word, rfl, lowered⟩,
      readLabel?_eq_some_iff.mpr ⟨some, blanks, after, rfl, blank, said⟩⟩

theorem firstLabel_cons : FirstLabel (c :: cs) label ↔
    LabelAt (c :: cs) label ∨ (∀ l, ¬ LabelAt (c :: cs) l) ∧ FirstLabel cs label := by
  constructor
  · rintro ⟨rest, suffix, said, none⟩
    rcases List.suffix_cons_iff.mp suffix with rfl | suffix
    · exact .inl said
    · refine .inr ⟨none _ List.suffix_rfl ?_, rest, suffix, said, fun more further => ?_⟩
      · exact Nat.lt_succ_of_le suffix.length_le
      · exact none more (further.trans (List.suffix_cons _ _))
  · rintro (said | ⟨first, rest, suffix, said, none⟩)
    · refine ⟨_, List.suffix_rfl, said, fun more further longer => ?_⟩
      exact absurd further.length_le (Nat.not_le.mpr longer)
    · refine ⟨rest, suffix.trans (List.suffix_cons _ _), said, fun more further longer => ?_⟩
      rcases List.suffix_cons_iff.mp further with rfl | further
      · exact first
      · exact none more further longer

/-- The label that is found is the first one that can be read. -/
theorem findLabel?_eq_some_iff : findLabel? cs = some label ↔ FirstLabel cs label := by
  induction cs with
  | nil =>
    simp only [findLabel?, reduceCtorEq, false_iff]
    rintro ⟨rest, suffix, ⟨word, blanks, after, eq, lowered, -⟩, -⟩
    rw [List.suffix_nil.mp suffix] at eq
    rw [(List.append_eq_nil_iff.mp eq.symm).1] at lowered
    cases lowered
  | cons c cs ih =>
    rw [findLabel?, firstLabel_cons, ← labelAt?_eq_some_iff, ← ih]
    simp only [← labelAt?_eq_some_iff]
    cases labelAt? (c :: cs) <;> simp

theorem findLabel?_eq_none_iff : findLabel? cs = none ↔ ∀ rest, rest <:+ cs → ∀ l, ¬ LabelAt rest l := by
  constructor
  · intro nothing rest suffix l said
    induction cs with
    | nil =>
      rw [List.suffix_nil.mp suffix, ← labelAt?_eq_some_iff] at said
      cases said
    | cons c cs ih =>
      rw [findLabel?] at nothing
      split at nothing
      · cases nothing
      · rename_i here
        rcases List.suffix_cons_iff.mp suffix with rfl | suffix
        · rw [labelAt?_eq_some_iff.mpr said] at here
          cases here
        · exact ih nothing suffix
  · intro nothing
    cases found : findLabel? cs with
    | none => rfl
    | some l =>
      obtain ⟨rest, suffix, said, -⟩ := findLabel?_eq_some_iff.mp found
      exact absurd said (nothing rest suffix l)

theorem labelInPage?_eq_some_iff :
    labelInPage? body = some label ↔ FirstLabel (Utf8.lossy (body.take 8192)).toList label := by
  rw [← findLabel?_eq_some_iff, Utf8.lossy, String.toList_ofList]
  rfl

theorem labelInPage?_eq_none_iff :
    labelInPage? body = none ↔ ∀ rest, rest <:+ (Utf8.lossy (body.take 8192)).toList → ∀ l, ¬ LabelAt rest l := by
  rw [← findLabel?_eq_none_iff, Utf8.lossy, String.toList_ofList]
  rfl

theorem labelOfParameter?_eq_some_iff {part : List Char} : labelOfParameter? part = some label ↔ Declares part label := by
  rw [labelOfParameter?]
  constructor
  · intro h
    split at h
    · cases h
    · rename_i name value split
      obtain ⟨rfl, none⟩ := splitOnce_eq_some_iff.mp split
      split at h
      · rename_i charset
        obtain ⟨some, letters⟩ := nonempty?_eq_some_iff.mp h
        exact ⟨name, value, rfl, none, charset, String.toList_inj.mp letters, some⟩
      · cases h
  · rintro ⟨name, value, rfl, none, charset, rfl, some⟩
    rw [splitOnce_eq_some_iff.mpr ⟨rfl, none⟩]
    simp only [charset, if_true]
    exact nonempty?_eq_some_iff.mpr ⟨some, rfl⟩

theorem pieces_eq_splitOn (c : Char) (cs : List Char) : pieces c cs = cs.splitOn c := by
  induction cs with
  | nil => rfl
  | cons d cs ih =>
    rw [pieces, ih, List.splitOn, List.splitOn, List.splitOnP_cons_eq_if_modifyHead]
    split
    · rfl
    · cases split : cs.splitOnP (· == c) with
      | nil => exact absurd split (List.splitOnP_ne_nil _ _)
      | cons p ps => rfl

theorem labelInMediaType?_eq_some_iff : labelInMediaType? mediaType = some label ↔ FirstDeclared mediaType label := by
  rw [labelInMediaType?, pieces_eq_splitOn, List.drop_one, List.findSome?_eq_some_iff]
  simp only [labelOfParameter?_eq_some_iff, Option.eq_none_iff_forall_ne_some, ne_eq, FirstDeclared]

end Reading

end Pagewalk.Charset
