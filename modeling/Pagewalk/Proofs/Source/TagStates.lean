import Mathlib.Data.List.Induction
import Mathlib.Data.List.TakeWhile
import Mathlib.Tactic.SplitIfs
import Pagewalk.Proofs.Source.Assignments
import Pagewalk.Proofs.Source.Readings

/-!
# Tags by the states of HTML

HTML reads a tag by ten states. The scan of a source reads it by three places, and takes every equals sign outside of
quotes for one before a value and every slash right before the end for one that closes the tag. Both are readings of the
same form, and they agree unless there is a `>` at which only one of them ends, or at which they differ on whether the
tag closes itself. That comes from a quote behind an equals sign of a name or of a value without quotes, and from a value
without quotes that ends in a slash.
-/

namespace Pagewalk.Source

open Text

/-! ### The states of HTML -/

/-- Where in a tag a character stands, by the states of HTML. -/
inductive TagState where
  | tagName
  | beforeName
  | inName
  | afterName
  | beforeValue
  | quoted (quote : Char)
  | unquoted
  | afterQuoted
  | selfClosing
  deriving DecidableEq, Repr

/-- The quote that a state waits for. -/
def TagState.quote? : TagState → Option Char
  | .quoted q => some q
  | _ => none

/-- The state behind a character that does not end the tag. A name may begin with an equals sign and hold quotes; a value
without quotes holds quotes, equals signs and slashes. -/
def TagState.next (s : TagState) (c : Char) : TagState :=
  match s with
  | .tagName => if isSpace c then .beforeName else if c == '/' then .selfClosing else .tagName
  | .inName | .afterName =>
    if isSpace c then .afterName else if c == '/' then .selfClosing else if c == '=' then .beforeValue else .inName
  | .beforeValue => if isSpace c then .beforeValue else if isQuote c then .quoted c else .unquoted
  | .quoted q => if c == q then .afterQuoted else .quoted q
  | .unquoted => if isSpace c then .beforeName else .unquoted
  | .beforeName | .afterQuoted | .selfClosing =>
    if isSpace c then .beforeName else if c == '/' then .selfClosing else .inName

/-- The reading by the states of HTML. -/
def byStates : TagReading TagState where
  next := TagState.next
  inQuotes s := s.quote?.isSome
  closes s := s == .selfClosing

/-- The tag at the start of a text by the states of HTML: whether it closes itself, and the number of its characters. -/
def tagByStates? : List Char → Option (Bool × Nat)
  | '<' :: '/' :: cs => byStates.end? .tagName 2 cs
  | '<' :: cs => byStates.end? .tagName 1 cs
  | _ => none

/-- A text begins with `<`, a slash or none, and a letter. -/
def Begins (cs : List Char) : Prop :=
  ∃ c rest, c.isAlpha = true ∧ (cs = '<' :: c :: rest ∨ cs = '<' :: '/' :: c :: rest)

/-- What stands behind the name of the tag at the start of a text. -/
def tagBody : List Char → List Char
  | '<' :: '/' :: cs => cs.dropWhile isNameChar
  | '<' :: cs => cs.dropWhile isNameChar
  | cs => cs

section Name
variable {cs name : List Char}

/-- The letters of a name are read over in the state of a name. -/
theorem open_tagName (h : ∀ c ∈ name, isNameChar c = true) :
    byStates.Open .tagName name ∧ byStates.behind .tagName name = .tagName := by
  induction name with
  | nil => exact ⟨by simp [TagReading.Open], rfl⟩
  | cons c name ih =>
    obtain ⟨letter, letters⟩ := List.forall_mem_cons.mp h
    obtain ⟨⟨blank, slash⟩, close⟩ : (isSpace c = false ∧ ¬ c = '/') ∧ ¬ c = '>' := by simpa [isNameChar] using letter
    have stays : byStates.next .tagName c = .tagName := by simp [byStates, TagState.next, blank, slash]
    obtain ⟨later, last⟩ := ih letters
    refine ⟨TagReading.open_cons.mpr ⟨fun hc => absurd hc close, ?_⟩, ?_⟩
    · rw [stays]
      exact later
    · rw [TagReading.behind, List.foldl_cons, stays]
      exact last

theorem end?_tagName (n : Nat) (cs : List Char) :
    byStates.end? .tagName n cs =
      byStates.end? .beforeName (n + (cs.takeWhile isNameChar).length) (cs.dropWhile isNameChar) := by
  obtain ⟨whole, stays⟩ := open_tagName fun c hc => List.mem_takeWhile_imp hc
  conv_lhs => rw [← List.takeWhile_append_dropWhile (p := isNameChar) (l := cs), TagReading.end?_append whole, stays]
  have stop := List.head?_dropWhile_not isNameChar cs
  cases hrest : cs.dropWhile isNameChar with
  | nil => rfl
  | cons c rest =>
    rw [hrest] at stop
    obtain rfl | border : c = '>' ∨ isSpace c = true ∨ c = '/' := by
      simp only [List.head?_cons, isNameChar, Bool.not_eq_false', Bool.or_eq_true, beq_iff_eq] at stop
      exact stop.symm
    · rfl
    · have same : byStates.next .tagName c = byStates.next .beforeName c := by
        rcases border with blank | rfl
        · simp [byStates, TagState.next, blank]
        · rfl
      rw [TagReading.end?, TagReading.end?, same]
      rfl

theorem tagFrom?_ends (isEnd : Bool) (n : Nat) {c : Char} {cs : List Char} (letter : c.isAlpha = true) :
    (tagFrom? isEnd n (c :: cs)).map (fun (t, m) => (t.selfClosing, m)) =
      byPlaces.end? (.plain, false) (n + ((c :: cs).takeWhile isNameChar).length) ((c :: cs).dropWhile isNameChar) := by
  rw [tagFrom?, if_pos letter, List.span_eq_takeWhile_dropWhile]
  simp only [Option.map_map, tagEnd?_eq_end?]
  exact Option.map_id_apply

/-- Both readings of a tag begin behind its name. -/
theorem exists_ends (h : Begins cs) : ∃ n, n + (tagBody cs).length = cs.length ∧
    (tag? cs).map (fun (t, m) => (t.selfClosing, m)) = byPlaces.end? (.plain, false) n (tagBody cs) ∧
    tagByStates? cs = byStates.end? .beforeName n (tagBody cs) := by
  obtain ⟨c, rest, letter, rfl | rfl⟩ := h
  · have slash : c ≠ '/' := by
      rintro rfl
      cases letter
    have length := congrArg List.length (List.takeWhile_append_dropWhile (p := isNameChar) (l := c :: rest))
    rw [List.length_append] at length
    have body : tagBody ('<' :: c :: rest) = (c :: rest).dropWhile isNameChar := by
      unfold tagBody
      split <;> simp_all
    refine ⟨1 + ((c :: rest).takeWhile isNameChar).length, ?_, ?_, ?_⟩
    · rw [body, List.length_cons]
      omega
    · rw [body, ← tagFrom?_ends false 1 letter]
      unfold tag?
      split <;> simp_all
    · rw [body, ← end?_tagName]
      unfold tagByStates?
      split <;> simp_all
  · have length := congrArg List.length (List.takeWhile_append_dropWhile (p := isNameChar) (l := c :: rest))
    rw [List.length_append] at length
    refine ⟨2 + ((c :: rest).takeWhile isNameChar).length, ?_, tagFrom?_ends true 2 letter, end?_tagName 2 _⟩
    rw [tagBody, List.length_cons, List.length_cons]
    omega

end Name

/-! ### Where the readings part -/

/-- A quote behind this text stands after an equals sign and blanks, where a name or a value without quotes goes on. -/
def Strays (before : List Char) : Prop :=
  (∃ front blanks, before = front ++ '=' :: blanks ∧ ∀ c ∈ blanks, isSpace c = true) ∧
    byStates.Open .beforeName before ∧ (byStates.behind .beforeName before).quote? = none ∧
    byStates.behind .beforeName before ≠ .beforeValue

/-- The text holds a quote that opens a value for the scan only. -/
def StrayQuote (cs : List Char) : Prop :=
  ∃ before q after, cs = before ++ q :: after ∧ isQuote q = true ∧ Strays before

/-- The tag ends behind a value without quotes whose last character is a slash. -/
def SlashedValue (cs : List Char) : Prop :=
  ∃ before after, cs = before ++ '/' :: '>' :: after ∧ byStates.Open .beforeName before ∧
    byStates.behind .beforeName (before ++ ['/']) = .unquoted

/-- The scan is in quotes where HTML is, and before a value where HTML is. -/
structure Agrees (s : TagState) (p : TagPlace) : Prop where
  quotes : p.quote? = s.quote?
  value : s = .beforeValue → p = .value

section Parting
variable {s : TagState} {p : TagPlace} {c q : Char} {cs before after blanks : List Char}

/-- Only an equals sign leads before a value, and only from there a quote opens one. -/
theorem TagState.next_apart (plain : s.quote? = none) (apart : s ≠ .beforeValue) (c : Char) :
    (s.next c).quote? = none ∧ (s.next c = .beforeValue → c = '=') := by
  cases s with
  | beforeValue => exact absurd rfl apart
  | quoted q => cases plain
  | _ => simp only [TagState.next]; split_ifs <;> simp_all [TagState.quote?]

theorem isQuote_eq_false_of_isSpace (h : isSpace c = true) : isQuote c = false := by
  rw [← Bool.not_eq_true]
  intro quote
  obtain rfl | rfl : c = '"' ∨ c = '\'' := by simpa [isQuote] using quote
  all_goals cases h

theorem Agrees.next (h : Agrees s p) (stray : isQuote c = true → p = .value → s = .beforeValue) :
    Agrees (s.next c) (p.next c) := by
  obtain ⟨quotes, value⟩ := h
  by_cases before : s = .beforeValue
  · obtain rfl := before
    obtain rfl := value rfl
    by_cases blank : isSpace c = true
    · constructor <;> simp [TagState.next, TagPlace.next, blank, isQuote_eq_false_of_isSpace blank, TagState.quote?,
        TagPlace.quote?]
    · by_cases quote : isQuote c = true
      · constructor <;> simp [TagState.next, TagPlace.next, blank, quote, TagState.quote?, TagPlace.quote?]
      · refine ⟨?_, by simp [TagState.next, blank, quote]⟩
        rw [TagState.next, TagPlace.next, if_neg blank, if_neg quote, if_neg quote]
        split <;> rfl
  · cases p with
    | quoted q =>
      obtain rfl : s = .quoted q := by cases s <;> simp_all [TagPlace.quote?, TagState.quote?]
      by_cases close : c = q <;> constructor <;>
        simp [TagState.next, TagPlace.next, close, TagState.quote?, TagPlace.quote?]
    | plain =>
      obtain ⟨plain, equals⟩ := TagState.next_apart quotes.symm before c
      refine ⟨plain ▸ ?_, fun h => by simp [TagPlace.next, equals h]⟩
      rw [TagPlace.next]
      split <;> rfl
    | value =>
      obtain ⟨plain, equals⟩ := TagState.next_apart quotes.symm before c
      have quote : isQuote c = false := by
        rw [← Bool.not_eq_true]
        exact fun quote => before (stray quote rfl)
      refine ⟨plain ▸ ?_, fun h => by simp [TagPlace.next, equals h, isQuote]⟩
      rw [TagPlace.next, quote, if_neg Bool.false_ne_true]
      split <;> rfl

/-- Where the scan stands behind a text. -/
def placeBehind (cs : List Char) : TagPlace := (byPlaces.behind (.plain, false) cs).1

theorem placeBehind_concat (cs : List Char) (c : Char) : placeBehind (cs ++ [c]) = (placeBehind cs).next c := by
  rw [placeBehind, TagReading.behind_concat]
  rfl

/-- The scan waits for quotes only. -/
theorem isQuote_of_quoted (h : placeBehind before = .quoted q) : isQuote q = true := by
  induction before using List.reverseRecOn with
  | nil => cases h
  | append_singleton before c ih =>
    rw [placeBehind_concat] at h
    cases place : placeBehind before with
    | plain =>
      rw [place, TagPlace.next] at h
      split at h <;> cases h
    | value =>
      rw [place, TagPlace.next] at h
      split_ifs at h with quote
      obtain rfl := TagPlace.quoted.inj h
      exact quote
    | quoted q' =>
      rw [place, TagPlace.next] at h
      split at h <;> cases h
      exact ih place

/-- The scan is before a value only behind an equals sign and blanks. -/
theorem equals_of_value (h : placeBehind before = .value) :
    ∃ front blanks, before = front ++ '=' :: blanks ∧ ∀ c ∈ blanks, isSpace c = true := by
  induction before using List.reverseRecOn with
  | nil => cases h
  | append_singleton before c ih =>
    rw [placeBehind_concat] at h
    by_cases equals : c = '='
    · exact ⟨before, [], by rw [equals], nofun⟩
    · cases place : placeBehind before with
      | plain => simp [place, TagPlace.next, equals] at h
      | quoted q =>
        rw [place, TagPlace.next] at h
        split at h <;> cases h
      | value =>
        obtain ⟨front, blanks, rfl, all⟩ := ih place
        have blank : isSpace c = true := by
          rw [place, TagPlace.next] at h
          split_ifs at h with _ blank
          simpa [equals] using blank
        refine ⟨front, blanks ++ [c], by simp, ?_⟩
        rintro d hd
        rcases List.mem_append.mp hd with hd | hd
        · exact all d hd
        · rwa [List.mem_singleton.mp hd]

/-- What is no quote leaves the scan in quotes. -/
theorem quote?_concat (h : (placeBehind before).quote? = some q) (other : isQuote c = false) :
    (placeBehind (before ++ [c])).quote? = some q := by
  obtain place : placeBehind before = .quoted q := by
    cases place : placeBehind before <;> rw [place] at h <;> cases h
    rfl
  have apart : c ≠ q := by
    rintro rfl
    rw [isQuote_of_quoted place] at other
    cases other
  rw [placeBehind_concat, place]
  simp [TagPlace.next, apart, TagPlace.quote?]

/-- Behind an equals sign and blanks the scan is before a value, unless it is in quotes. -/
theorem value_of_equals (h : ∀ c ∈ blanks, isSpace c = true)
    (plain : (placeBehind (before ++ '=' :: blanks)).quote? = none) :
    placeBehind (before ++ '=' :: blanks) = .value := by
  induction blanks using List.reverseRecOn with
  | nil =>
    cases quote : (placeBehind before).quote? with
    | some q =>
      rw [quote?_concat quote rfl] at plain
      cases plain
    | none =>
      rw [placeBehind_concat]
      cases place : placeBehind before <;> rw [place] at quote <;> cases quote <;> rfl
  | append_singleton blanks c ih =>
    have blank : isSpace c = true := h c (by simp)
    have other := isQuote_eq_false_of_isSpace blank
    have assoc : before ++ '=' :: (blanks ++ [c]) = (before ++ '=' :: blanks) ++ [c] := by simp
    rw [assoc] at plain ⊢
    cases quote : (placeBehind (before ++ '=' :: blanks)).quote? with
    | some q =>
      rw [quote?_concat quote other] at plain
      cases plain
    | none =>
      rw [placeBehind_concat, ih (fun d hd => h d (by simp [hd])) quote]
      simp [TagPlace.next, other, blank]

/-- Where HTML has read a text on, every text it begins with is read on. -/
theorem not_strayQuote_append (h : ¬ StrayQuote (before ++ after)) : ¬ StrayQuote before := by
  rintro ⟨front, q, back, rfl, quote, strays⟩
  exact h ⟨front, q, back ++ after, by simp, quote, strays⟩

/-- As long as there is no stray quote, the scan agrees with HTML. -/
theorem agrees_behind (whole : byStates.Open .beforeName before) (calm : ¬ StrayQuote before) :
    Agrees (byStates.behind .beforeName before) (placeBehind before) := by
  induction before using List.reverseRecOn with
  | nil => exact ⟨rfl, nofun⟩
  | append_singleton before c ih =>
    have agrees := ih whole.of_append (not_strayQuote_append calm)
    rw [TagReading.behind_concat, placeBehind_concat]
    refine agrees.next fun quote value => ?_
    -- A quote that opens a value for the scan and not for HTML is a stray one.
    by_contra apart
    have plain : (byStates.behind .beforeName before).quote? = none := by rw [← agrees.quotes, value]; rfl
    exact calm ⟨before, c, [], rfl, quote, equals_of_value value, whole.of_append, plain, apart⟩

/-- Without a stray quote the scan ends no tag that HTML reads on. -/
theorem open_byPlaces (whole : byStates.Open .beforeName before) (calm : ¬ StrayQuote before) :
    byPlaces.Open (.plain, false) before := by
  rintro front back rfl
  have agrees := agrees_behind whole.of_append (not_strayQuote_append calm)
  have quoted := whole front back rfl
  exact (congrArg Option.isSome agrees.quotes).trans quoted

theorem TagState.next_ne_selfClosing (h : c ≠ '/') : s.next c ≠ .selfClosing := by
  cases s <;> simp only [TagState.next] <;> split_ifs <;> simp_all

/-- A slash right before the end closes the tag by HTML, unless it ends a value without quotes. -/
theorem closes_concat (agrees : Agrees (byStates.behind .beforeName before) (placeBehind before)) :
    byStates.closes (byStates.behind .beforeName (before ++ [c])) =
        byPlaces.closes (byPlaces.behind (.plain, false) (before ++ [c])) ↔
      ¬ (c = '/' ∧ byStates.behind .beforeName (before ++ [c]) = .unquoted) := by
  rw [TagReading.behind_concat, TagReading.behind_concat]
  have mark : byPlaces.closes (byPlaces.next (byPlaces.behind (.plain, false) before) c) =
      (c == '/' && (byStates.behind .beforeName before).quote?.isNone) := by
    rw [← agrees.quotes]
    rfl
  rw [mark]
  generalize byStates.behind .beforeName before = s
  by_cases slash : c = '/'
  · subst slash
    cases s with
    | quoted q =>
      simp only [byStates, TagState.next]
      split <;> simp [TagState.quote?]
    | _ => decide
  · simp [byStates, slash, beq_eq_false_iff_ne.mpr (TagState.next_ne_selfClosing slash), beq_eq_false_iff_ne.mpr slash]

theorem open_concat (whole : byStates.Open .beforeName before) (h : c ≠ '>') :
    byStates.Open .beforeName (before ++ [c]) := by
  rw [← TagReading.end?_eq_none_iff (n := 0), TagReading.end?_append whole]
  simp [TagReading.end?, h]

/-- Without a stray quote the readings part only behind a slash that ends a value without quotes. -/
theorem part_iff_slashedValue (calm : ¬ StrayQuote cs) :
    byPlaces.Part byStates (.plain, false) .beforeName cs ↔ SlashedValue cs := by
  constructor
  · rintro ⟨before, after, rfl, -, whole, quotes | ⟨-, -, closes⟩⟩
    · have agrees := agrees_behind whole (not_strayQuote_append calm)
      exact absurd (congrArg Option.isSome agrees.quotes) quotes
    · rcases List.eq_nil_or_concat before with rfl | ⟨before, c, rfl⟩
      · exact absurd rfl closes
      · rw [List.concat_eq_append] at *
        have agrees := agrees_behind whole.of_append (not_strayQuote_append (not_strayQuote_append calm))
        obtain ⟨rfl, unquoted⟩ := Classical.not_not.mp fun apart => closes ((closes_concat agrees).mpr apart).symm
        exact ⟨before, after, by simp, whole.of_append, unquoted⟩
  · rintro ⟨before, after, rfl, whole, unquoted⟩
    rw [List.append_cons] at calm ⊢
    have calm := not_strayQuote_append calm
    have whole' : byStates.Open .beforeName (before ++ ['/']) := open_concat whole (by decide)
    have quotes := (agrees_behind whole' calm).quotes
    have agrees := agrees_behind whole (not_strayQuote_append calm)
    rw [unquoted] at quotes
    refine ⟨before ++ ['/'], after, rfl, open_byPlaces whole' calm, whole', .inr ⟨?_, ?_, ?_⟩⟩
    · exact congrArg Option.isSome quotes
    · rw [unquoted]
      rfl
    · exact fun same => (closes_concat agrees).mp same.symm ⟨rfl, unquoted⟩

/-- Right behind the first stray quote a `>` ends the tag by HTML and not for the scan. -/
theorem ends_of_first_stray (n : Nat) (quote : isQuote q = true) (strays : Strays before)
    (calm : ¬ StrayQuote before) :
    byPlaces.end? (.plain, false) n (before ++ [q, '>']) = none ∧
      byStates.end? .beforeName n (before ++ [q, '>']) = some (false, n + (before ++ [q, '>']).length) := by
  obtain ⟨⟨front, blanks, eq, blank⟩, whole, plain, apart⟩ := strays
  have agrees := agrees_behind whole calm
  have value : placeBehind before = .value := by
    subst eq
    exact value_of_equals blank (agrees.quotes.trans plain)
  have close : (q == '>') = false ∧ q ≠ '/' := by
    constructor
    · rw [beq_eq_false_iff_ne]
      rintro rfl
      cases quote
    · rintro rfl
      cases quote
  constructor
  · rw [TagReading.end?_append (open_byPlaces whole calm)]
    rcases hp : byPlaces.behind (.plain, false) before with ⟨place, mark⟩
    obtain rfl : place = .value := by rw [← value, placeBehind, hp]
    have quoted : byPlaces.next (.value, mark) q = (.quoted q, false) := by
      simp [byPlaces, TagPlace.next, quote, TagPlace.quote?, close.2]
    rw [TagReading.end?, close.1, Bool.false_and, if_neg Bool.false_ne_true, quoted]
    rfl
  · rw [TagReading.end?_append whole]
    obtain ⟨plain', -⟩ := TagState.next_apart plain apart q
    have goesOn := TagState.next_ne_selfClosing (s := byStates.behind .beforeName before) close.2
    generalize byStates.behind .beforeName before = s at plain' goesOn
    rw [TagReading.end?, close.1, Bool.false_and, if_neg Bool.false_ne_true, TagReading.end?]
    simp [byStates, plain', goesOn, Nat.add_assoc]

end Parting

/-- The scan reads a tag as HTML does unless the readings part behind its name. Without a quote that follows the equals
sign of a name or of a value without quotes, that is unless the tag ends behind a value without quotes whose last character
is a slash. Right behind the first such quote, a `>` ends the tag by HTML and not for the scan. -/
theorem tag?_eq_iff {cs : List Char} (h : Begins cs) :
    ((tag? cs).map (fun (t, n) => (t.selfClosing, n)) = tagByStates? cs ↔
      ¬ byPlaces.Part byStates (.plain, false) .beforeName (tagBody cs)) ∧
    (¬ StrayQuote (tagBody cs) →
      ((tag? cs).map (fun (t, n) => (t.selfClosing, n)) = tagByStates? cs ↔ ¬ SlashedValue (tagBody cs))) ∧
    ∀ before q, tagBody cs = before ++ [q, '>'] → isQuote q = true → Strays before → ¬ StrayQuote before →
      tag? cs = none ∧ tagByStates? cs = some (false, cs.length) := by
  obtain ⟨n, length, scan, states⟩ := exists_ends h
  have agree : (tag? cs).map (fun (t, n) => (t.selfClosing, n)) = tagByStates? cs ↔
      ¬ byPlaces.Part byStates (.plain, false) .beforeName (tagBody cs) := by
    rw [scan, states]
    exact TagReading.end?_eq_end?_iff
  refine ⟨agree, fun calm => agree.trans (not_congr (part_iff_slashedValue calm)), ?_⟩
  intro before q body quote strays calm
  obtain ⟨none, some⟩ := ends_of_first_stray n quote strays calm
  rw [body] at scan states length
  rw [none, Option.map_eq_none_iff] at scan
  exact ⟨scan, by rw [states, some, length]⟩

/-- The quote behind the second equals sign hides the `>` from the scan. A quoted value and a slash in a value without
quotes are read alike. -/
theorem tag?_eq_iff_quoteInValue :
    Begins "<p a=b=\">".toList ∧ Begins "<a b=c/d e=\"f>g\"/>".toList ∧
    Strays " a=b=".toList ∧ ¬ StrayQuote " a=b=".toList ∧
    tag? "<p a=b=\">".toList = none ∧ tagByStates? "<p a=b=\">".toList = some (false, 9) ∧
    ¬ byPlaces.Part byStates (.plain, false) .beforeName (tagBody "<a b=c/d e=\"f>g\"/>".toList) := by
  have begins : Begins "<p a=b=\">".toList := ⟨'p', _, rfl, .inl rfl⟩
  have begins' : Begins "<a b=c/d e=\"f>g\"/>".toList := ⟨'a', _, rfl, .inl rfl⟩
  have strays : Strays " a=b=".toList :=
    ⟨⟨" a=b".toList, [], rfl, nofun⟩, TagReading.end?_eq_none_iff (n := 0).mp rfl, rfl, by decide +kernel⟩
  have calm : ¬ StrayQuote " a=b=".toList := by
    rintro ⟨before, q, after, eq, quote, -⟩
    have none : " a=b=".toList.any isQuote = false := by decide +kernel
    rw [eq, List.any_append, List.any_cons, quote] at none
    simp at none
  obtain ⟨hidden, ends⟩ := (tag?_eq_iff begins).2.2 _ '"' rfl rfl strays calm
  exact ⟨begins, begins', strays, calm, hidden, ends, (tag?_eq_iff begins').1.mp (by decide +kernel)⟩

/-- A value without quotes that holds an equals sign and a quote. -/
def quoteInValuePage : String := "<p title=a=\"b>x</p>"

/-- A value without quotes that ends in a slash, and an element in the raw text behind it. -/
def slashedValuePage : String := "<script src=x/><i></i></script><i>"

/-- The paragraph has a complete tag by HTML and no location. The tag of the script does not close itself by HTML, and the
tag in the raw text behind it is taken for the one of the last element. -/
theorem tag?_ne_tagByStates? :
    ((Document.parse default quoteInValuePage).2 = .ok (Document.located quoteInValuePage) ∧
      Begins quoteInValuePage.toList ∧ tag? quoteInValuePage.toList = none ∧
      tagByStates? quoteInValuePage.toList = some (false, 14) ∧
      names (Document.ofText quoteInValuePage) = ["html", "head", "body", "p"] ∧
      locate quoteInValuePage (Document.ofText quoteInValuePage) =
        rows (Document.ofText quoteInValuePage).elements [none, none, none, none]) ∧
    ((Document.parse default slashedValuePage).2 = .ok (Document.located slashedValuePage) ∧
      Begins slashedValuePage.toList ∧ tag? slashedValuePage.toList = some (⟨"script", false, true⟩, 15) ∧
      tagByStates? slashedValuePage.toList = some (false, 15) ∧
      names (Document.ofText slashedValuePage) = ["html", "head", "script", "body", "i"] ∧
      locate slashedValuePage (Document.ofText slashedValuePage) =
        rows (Document.ofText slashedValuePage).elements [none, none, some ⟨0, 1, 0⟩, none, some ⟨0, 16, 15⟩]) := by
  constructor
  · exact ⟨Document.parse_of_lenient (by decide) rfl, ⟨'p', _, rfl, .inl rfl⟩, by decide +kernel, by decide +kernel,
      by decide +kernel, by decide +kernel⟩
  · exact ⟨Document.parse_of_lenient (by decide) rfl, ⟨'s', _, rfl, .inl rfl⟩, by decide +kernel, by decide +kernel,
      by decide +kernel, by decide +kernel⟩

end Pagewalk.Source
