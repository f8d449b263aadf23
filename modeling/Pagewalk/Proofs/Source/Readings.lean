import Mathlib.Data.List.TakeDrop
import Mathlib.Data.List.TakeWhile
import Pagewalk.Source.Segment

/-!
# Readings of a tag

A tag is read character by character behind its name, up to the first `>` that stands in no quotes. What a character means
depends on where the reading stands; two readings agree unless there is a `>` at which only one of them ends, or at which
they differ on whether the tag closes itself. The scan of a source stands at one of three places.
-/

namespace Pagewalk.Source

open Text

/-! ### Readings -/

/-- A way to read a tag behind its name, character by character. -/
structure TagReading (σ : Type) where
  next : σ → Char → σ
  inQuotes : σ → Bool
  /-- The tag closes itself if it ends here. -/
  closes : σ → Bool

namespace TagReading

/-- Reads to the first `>` that stands in no quotes: whether the tag closes itself, and the number of characters, counted
on from `n`. -/
def end? {σ : Type} (r : TagReading σ) : σ → Nat → List Char → Option (Bool × Nat)
  | _, _, [] => none
  | s, n, c :: cs => if c == '>' && !r.inQuotes s then some (r.closes s, n + 1) else end? r (r.next s c) (n + 1) cs

/-- Where the reading stands behind a text that does not end the tag. -/
def behind {σ : Type} (r : TagReading σ) (s : σ) (cs : List Char) : σ := cs.foldl r.next s

/-- Every `>` of the text stands in quotes. -/
def Open {σ : Type} (r : TagReading σ) (s : σ) (cs : List Char) : Prop :=
  ∀ before after, cs = before ++ '>' :: after → r.inQuotes (r.behind s before) = true

/-- Two readings part at a `>` that ends the tag for one of them only, or for both with a different answer. -/
def Part {σ τ : Type} (r : TagReading σ) (r' : TagReading τ) (s : σ) (t : τ) (cs : List Char) : Prop :=
  ∃ before after, cs = before ++ '>' :: after ∧ r.Open s before ∧ r'.Open t before ∧
    (r.inQuotes (r.behind s before) ≠ r'.inQuotes (r'.behind t before) ∨
      r.inQuotes (r.behind s before) = false ∧ r'.inQuotes (r'.behind t before) = false ∧
        r.closes (r.behind s before) ≠ r'.closes (r'.behind t before))

variable {σ τ : Type} {r : TagReading σ} {r' : TagReading τ} {s : σ} {t : τ} {n m : Nat} {b : Bool} {c : Char}
variable {cs ds : List Char}

theorem end?_cons (r : TagReading σ) (s : σ) (n : Nat) (c : Char) (cs : List Char) :
    r.end? s n (c :: cs) =
      if c == '>' && !r.inQuotes s then some (r.closes s, n + 1) else r.end? (r.next s c) (n + 1) cs :=
  rfl

theorem open_cons : r.Open s (c :: cs) ↔ (c = '>' → r.inQuotes s = true) ∧ r.Open (r.next s c) cs := by
  constructor
  · intro h
    refine ⟨?_, fun before after eq => h (c :: before) after (by rw [eq, List.cons_append])⟩
    rintro rfl
    exact h [] cs rfl
  · rintro ⟨here, later⟩ before after eq
    cases before with
    | nil =>
      obtain ⟨rfl, rfl⟩ := List.cons.inj eq
      exact here rfl
    | cons d before =>
      obtain ⟨rfl, rfl⟩ := List.cons.inj eq
      exact later before after rfl

theorem Open.of_append (h : r.Open s (cs ++ ds)) : r.Open s cs := by
  rintro before after rfl
  exact h before (after ++ ds) (by simp)

theorem behind_concat (r : TagReading σ) (s : σ) (cs : List Char) (c : Char) :
    r.behind s (cs ++ [c]) = r.next (r.behind s cs) c := by
  rw [behind, List.foldl_append]
  rfl

/-- A text that does not end the tag is read over. -/
theorem end?_append (h : r.Open s cs) (n : Nat) (ds : List Char) :
    r.end? s n (cs ++ ds) = r.end? (r.behind s cs) (n + cs.length) ds := by
  induction cs generalizing s n with
  | nil => rfl
  | cons c cs ih =>
    obtain ⟨here, later⟩ := open_cons.mp h
    have goesOn : (c == '>' && !r.inQuotes s) = false := by
      by_cases hc : c = '>' <;> simp [hc, here]
    rw [List.cons_append, end?_cons, goesOn, if_neg Bool.false_ne_true, ih later, List.length_cons, behind, behind,
      List.foldl_cons, Nat.add_assoc, Nat.add_comm 1]

theorem end?_eq_none_iff : r.end? s n cs = none ↔ r.Open s cs := by
  induction cs generalizing s n with
  | nil => simp [end?, Open]
  | cons c cs ih =>
    rw [end?_cons, open_cons, ← ih (n := n + 1)]
    by_cases hc : c = '>' <;> cases hq : r.inQuotes s <;> simp [hc]

/-- A reading ends at the first `>` in no quotes. -/
theorem end?_eq_some_iff : r.end? s n cs = some (b, m) ↔ ∃ before after, cs = before ++ '>' :: after ∧
    r.Open s before ∧ r.inQuotes (r.behind s before) = false ∧ r.closes (r.behind s before) = b ∧
    n + before.length + 1 = m := by
  constructor
  · intro h
    have some : ¬ r.Open s cs := fun whole => by simp [end?_eq_none_iff.mpr whole] at h
    induction cs generalizing s n with
    | nil => cases h
    | cons c cs ih =>
      rw [end?_cons] at h
      split at h
      · rename_i ends
        obtain ⟨rfl, plain⟩ : c = '>' ∧ r.inQuotes s = false := by simpa using ends
        obtain ⟨rfl, rfl⟩ := Prod.mk.inj (Option.some.inj h)
        exact ⟨[], cs, rfl, by simp [Open], plain, rfl, rfl⟩
      · rename_i goesOn
        have here : c = '>' → r.inQuotes s = true := by simpa using goesOn
        obtain ⟨before, after, rfl, later, plain, closes, rfl⟩ :=
          ih h fun whole => some (open_cons.mpr ⟨here, whole⟩)
        exact ⟨c :: before, after, rfl, open_cons.mpr ⟨here, later⟩, plain, closes, by rw [List.length_cons]; omega⟩
  · rintro ⟨before, after, rfl, whole, plain, rfl, rfl⟩
    rw [end?_append whole, end?_cons]
    simp [plain]

theorem Part.symm (h : r.Part r' s t cs) : r'.Part r t s cs := by
  obtain ⟨before, after, eq, hs, ht, quotes | ⟨plain, plain', closes⟩⟩ := h
  · exact ⟨before, after, eq, ht, hs, .inl quotes.symm⟩
  · exact ⟨before, after, eq, ht, hs, .inr ⟨plain', plain, closes.symm⟩⟩

/-- Where one of two readings that do not part ends, the other ends with the same answer. -/
theorem end?_of_not_part (apart : ¬ r.Part r' s t cs) (h : r.end? s n cs = some (b, m)) :
    r'.end? t n cs = some (b, m) := by
  obtain ⟨before, after, rfl, hs, plain, rfl, rfl⟩ := end?_eq_some_iff.mp h
  -- Where the other reading ended earlier, this one would be in quotes, and the two would part there.
  have ht : r'.Open t before := by
    rw [← end?_eq_none_iff (n := 0), Option.eq_none_iff_forall_ne_some]
    rintro ⟨b, m⟩ first
    obtain ⟨front, back, rfl, ht, plain', -⟩ := end?_eq_some_iff.mp first
    have quoted := hs front back rfl
    exact apart ⟨front, back ++ '>' :: after, by simp, hs.of_append, ht, .inl (by simp [quoted, plain'])⟩
  have plain' : r'.inQuotes (r'.behind t before) = false := by
    by_contra quoted
    exact apart ⟨before, after, rfl, hs, ht, .inl (by simp [plain, quoted])⟩
  refine end?_eq_some_iff.mpr ⟨before, after, rfl, ht, plain', ?_, rfl⟩
  by_contra closes
  exact apart ⟨before, after, rfl, hs, ht, .inr ⟨plain, plain', Ne.symm closes⟩⟩

theorem end?_ne_of_quoted (hs : r.Open s cs) (ht : r'.Open t cs) (quoted : r.inQuotes (r.behind s cs) = true)
    (plain : r'.inQuotes (r'.behind t cs) = false) : r.end? s n (cs ++ '>' :: ds) ≠ r'.end? t n (cs ++ '>' :: ds) := by
  intro same
  rw [end?_append hs, end?_append ht, end?_cons, end?_cons] at same
  simp only [quoted, plain, beq_self_eq_true, Bool.not_true, Bool.and_false, Bool.false_eq_true, if_false, Bool.not_false,
    Bool.and_true, if_true] at same
  obtain ⟨_, _, -, -, -, -, later⟩ := end?_eq_some_iff.mp same
  omega

/-- Two readings agree exactly if they do not part. -/
theorem end?_eq_end?_iff : r.end? s n cs = r'.end? t n cs ↔ ¬ r.Part r' s t cs := by
  constructor
  · rintro same ⟨before, after, rfl, hs, ht, quotes | ⟨plain, plain', closes⟩⟩
    · cases quoted : r.inQuotes (r.behind s before) <;> cases quoted' : r'.inQuotes (r'.behind t before)
      · exact quotes (quoted.trans quoted'.symm)
      · exact end?_ne_of_quoted ht hs quoted' quoted same.symm
      · exact end?_ne_of_quoted hs ht quoted quoted' same
      · exact quotes (quoted.trans quoted'.symm)
    · rw [end?_append hs, end?_append ht, end?_cons, end?_cons] at same
      simp [plain, plain', closes] at same
  · intro apart
    refine Option.ext fun ⟨b, m⟩ => ⟨end?_of_not_part apart, end?_of_not_part fun h => apart h.symm⟩

end TagReading

/-! ### The places of the scan -/

/-- A quote that may open a value. -/
def isQuote (c : Char) : Bool := c == '"' || c == '\''

/-- The quote that a place waits for. -/
def TagPlace.quote? : TagPlace → Option Char
  | .quoted q => some q
  | _ => none

/-- The place behind a character that does not end the tag. -/
def TagPlace.next (p : TagPlace) (c : Char) : TagPlace :=
  match p with
  | .quoted q => if c == q then .plain else .quoted q
  | .plain => if c == '=' then .value else .plain
  | .value => if isQuote c then .quoted c else if c == '=' || isSpace c then .value else .plain

/-- The reading by the places of the scan, each with the mark that a slash stands right before. -/
def byPlaces : TagReading (TagPlace × Bool) where
  next p c := (p.1.next c, c == '/' && p.1.quote?.isNone)
  inQuotes p := p.1.quote?.isSome
  closes p := p.2

theorem tagEnd?_cons (p : TagPlace) (slash : Bool) (n : Nat) (c : Char) (cs : List Char) :
    tagEnd? p slash n (c :: cs) =
      if c == '>' && p.quote?.isNone then some (slash, n + 1)
      else tagEnd? (p.next c) (c == '/' && p.quote?.isNone) (n + 1) cs := by
  have noSlash : isSpace c = true → (c == '/') = false := by
    intro blank
    refine beq_eq_false_iff_ne.mpr ?_
    rintro rfl
    cases blank
  cases p with
  | quoted q => simp [tagEnd?, TagPlace.quote?, TagPlace.next]
  | plain =>
    simp only [tagEnd?, TagPlace.quote?, TagPlace.next]
    by_cases equals : c = '='
    · simp [equals]
    · by_cases blank : isSpace c = true
      · simp [equals, blank, noSlash]
      · simp [equals, blank]
  | value =>
    simp only [tagEnd?, TagPlace.quote?, TagPlace.next, isQuote]
    by_cases quote : c = '"' ∨ c = '\''
    · rcases quote with rfl | rfl <;> simp
    · obtain ⟨double, single⟩ := not_or.mp quote
      by_cases equals : c = '='
      · simp [equals]
      · by_cases blank : isSpace c = true
        · simp [double, single, equals, blank, noSlash]
        · simp [double, single, equals, blank]

theorem tagEnd?_eq_end? (p : TagPlace) (slash : Bool) (n : Nat) (cs : List Char) :
    tagEnd? p slash n cs = byPlaces.end? (p, slash) n cs := by
  induction cs generalizing p slash n with
  | nil => rw [tagEnd?, TagReading.end?]
  | cons c cs ih =>
    rw [tagEnd?_cons, TagReading.end?_cons, ih]
    cases p <;> rfl

section Tags
variable {t : TagText} {isEnd : Bool} {n m : Nat} {cs : List Char}

theorem tagFrom?_name (h : tagFrom? isEnd n cs = some (t, m)) :
    t.isEnd = isEnd ∧ t.name = lower (String.ofList (cs.takeWhile isNameChar)) ∧
      n + (cs.takeWhile isNameChar).length < m ∧ m ≤ n + cs.length := by
  cases cs with
  | nil => cases h
  | cons c cs =>
    simp only [tagFrom?, List.span_eq_takeWhile_dropWhile, tagEnd?_eq_end?] at h
    split at h
    · obtain ⟨⟨s, k⟩, ends, eq⟩ := Option.map_eq_some_iff.mp h
      obtain ⟨rfl, rfl⟩ := Prod.mk.inj eq
      obtain ⟨before, after, body, -, -, -, rfl⟩ := TagReading.end?_eq_some_iff.mp ends
      have length := congrArg List.length (List.takeWhile_append_dropWhile (p := isNameChar) (l := c :: cs))
      rw [List.length_append, body, List.length_append, List.length_cons] at length
      exact ⟨rfl, rfl, by omega, by omega⟩
    · cases h

theorem tag?_bounds (h : tag? cs = some (t, n)) : 0 < n ∧ n ≤ cs.length := by
  unfold tag? at h
  split at h
  · obtain ⟨-, -, lt, le⟩ := tagFrom?_name h
    simp only [List.length_cons]
    omega
  · obtain ⟨-, -, lt, le⟩ := tagFrom?_name h
    simp only [List.length_cons]
    omega
  · cases h

end Tags

end Pagewalk.Source
