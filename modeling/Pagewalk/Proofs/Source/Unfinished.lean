import Mathlib.Data.List.Forall2
import Pagewalk.Proofs.Source.Segmentation

/-!
# More text behind a source

Text behind a source leaves the segments of the source as they are, up to the first tag that the source does not complete.
The scan takes such a tag for text and looks for tags in it, and when more text completes the tag, those that it found are
gone. So the tags of a source are the first tags of every longer one exactly if none was found in an unfinished tag.
-/

namespace Pagewalk.Source

open Text

/-- A text that begins with a tag, which the source does not complete. -/
def Unfinished (s : Segment) : Prop := s.kind = .text ∧ Begins s.chars

/-! ### Segments before more text -/

section Longer
variable {p : List Char → Prop} {r : TagText × Nat} {name : String} {kind : SegmentKind} {c : Char} {n m : Nat}
variable {mark front back body close chars raw rest cs more : List Char}

theorem prefix_append_iff (long : mark.length ≤ cs.length) : mark <+: cs ++ more ↔ mark <+: cs :=
  ⟨fun h => List.prefix_of_prefix_length_le h (List.prefix_append _ _) long, fun h => h.trans (List.prefix_append _ _)⟩

theorem UpTo.append (h : UpTo p front back) (some : back ≠ [])
    (same : ∀ cs, p (cs ++ (back ++ more)) ↔ p (cs ++ back)) : UpTo p front (back ++ more) := by
  refine ⟨fun before after eq nonempty here => h.1 before after eq nonempty ((same after).mp here), .inr ?_⟩
  exact (same []).mpr (h.2.resolve_left some)

theorem ClosedBy.append {mark : String} (h : ClosedBy mark body close rest) (some : rest ≠ []) :
    ClosedBy mark body close (rest ++ more) := by
  obtain rfl : close = mark.toList := h.2.resolve_right fun no => some no.2
  refine ⟨?_, .inl rfl⟩
  rw [← List.append_assoc]
  refine h.1.append (by simp [some]) fun cs => ?_
  rw [← List.append_assoc]
  refine prefix_append_iff ?_
  rw [List.length_append, List.length_append]
  omega

theorem IsComment.append (h : IsComment chars rest) (some : rest ≠ []) : IsComment chars (rest ++ more) := by
  obtain rfl | rfl | ⟨body, close, rfl, angle, dash, closed⟩ := h
  · exact .inl rfl
  · exact .inr (.inl rfl)
  · obtain rfl : close = "-->".toList := closed.2.resolve_right fun no => some no.2
    refine .inr (.inr ⟨body, _, rfl, ?_, ?_, closed.append some⟩)
    · rwa [← List.append_assoc "-->".toList, ← List.append_assoc body, prefix_append_iff (by simp; omega)]
    · rwa [← List.append_assoc "-->".toList, ← List.append_assoc body, prefix_append_iff (by simp; omega)]

theorem IsDeclaration.append (h : IsDeclaration chars rest) (some : rest ≠ []) : IsDeclaration chars (rest ++ more) := by
  obtain ⟨mark, body, close, marked, rfl, other, closed⟩ := h
  obtain rfl : close = ">".toList := closed.2.resolve_right fun no => some no.2
  refine ⟨mark, body, _, marked, rfl, ?_, closed.append some⟩
  rw [← List.append_assoc, prefix_append_iff]
  · exact other
  · have := List.length_pos_of_ne_nil some
    simp
    omega

theorem tagFrom?_append {isEnd : Bool} (h : tagFrom? isEnd n cs = some r) : tagFrom? isEnd n (cs ++ more) = some r := by
  cases cs with
  | nil => cases h
  | cons c cs =>
    simp only [tagFrom?, List.span_eq_takeWhile_dropWhile, tagEnd?_eq_end?, List.cons_append] at h ⊢
    split at h
    · rename_i letter
      obtain ⟨⟨slash, k⟩, ends, rfl⟩ := Option.map_eq_some_iff.mp h
      obtain ⟨before, after, behind, whole, plain, closes, rfl⟩ := TagReading.end?_eq_some_iff.mp ends
      have shorter : ((c :: cs).takeWhile isNameChar).length ≠ (c :: cs).length := by
        have split := congrArg List.length (List.takeWhile_append_dropWhile (p := isNameChar) (l := c :: cs))
        rw [List.length_append, behind, List.length_append, List.length_cons] at split
        omega
      have name : (c :: cs ++ more).takeWhile isNameChar = (c :: cs).takeWhile isNameChar := by
        rw [List.takeWhile_append, if_neg shorter]
      have longer : (c :: cs ++ more).dropWhile isNameChar = before ++ '>' :: (after ++ more) := by
        rw [List.dropWhile_append, behind]
        simp
      rw [← List.cons_append, if_pos letter, name, longer]
      rw [TagReading.end?_eq_some_iff.mpr ⟨before, after ++ more, rfl, whole, plain, closes, rfl⟩]
      rfl
    · cases h

/-- A complete tag is the same whatever follows. -/
theorem tag?_append (h : tag? cs = some r) : tag? (cs ++ more) = some r := by
  unfold tag? at h
  split at h
  · exact tagFrom?_append h
  · rename_i cs slash
    have apart : ∀ ds, cs ++ more = '/' :: ds → False := by
      intro ds eq
      cases cs with
      | nil => cases h
      | cons c cs =>
        obtain rfl : c = '/' := (List.cons.inj eq).1
        exact slash cs rfl
    rw [List.cons_append, tag?]
    · exact tagFrom?_append h
    · exact apart
  · cases h

theorem angle_of_tag? (h : tag? cs = some r) : '>' ∈ cs := by
  have inside {isEnd : Bool} {n : Nat} {cs : List Char} (h : tagFrom? isEnd n cs = some r) : '>' ∈ cs := by
    cases cs with
    | nil => cases h
    | cons c cs =>
      simp only [tagFrom?, List.span_eq_takeWhile_dropWhile, tagEnd?_eq_end?] at h
      split at h
      · obtain ⟨_, ends, -⟩ := Option.map_eq_some_iff.mp h
        obtain ⟨before, after, behind, -⟩ := TagReading.end?_eq_some_iff.mp ends
        refine (List.dropWhile_suffix isNameChar).subset ?_
        rw [behind]
        simp
      · cases h
  unfold tag? at h
  split at h
  · exact .tail _ (.tail _ (inside h))
  · exact .tail _ (inside h)
  · cases h

/-- A text that begins with no tag begins with none whatever follows, if it is not cut off right behind a `<` or a slash. -/
theorem plain_append (h : Plain (c :: cs)) (other : ¬ Begins (c :: cs)) (cut : c :: cs ≠ ['<'])
    (cut' : c :: cs ≠ ['<', '/']) : Plain (c :: (cs ++ more)) := by
  by_cases angle : c = '<'
  · subst angle
    obtain ⟨bang, query, -⟩ := h
    cases cs with
    | nil => exact absurd rfl cut
    | cons d cs =>
      refine ⟨?_, ?_, ?_⟩
      · rintro ⟨rest, eq⟩
        cases eq
        exact bang ⟨_, rfl⟩
      · rintro ⟨rest, eq⟩
        cases eq
        exact query ⟨_, rfl⟩
      · by_cases slash : d = '/'
        · subst slash
          cases cs with
          | nil => exact absurd rfl cut'
          | cons e cs =>
            have noLetter : ¬ e.isAlpha = true := fun letter => other ⟨e, cs, letter, .inr rfl⟩
            exact if_neg noLetter
        · have noLetter : ¬ d.isAlpha = true := fun letter => other ⟨d, cs, letter, .inl rfl⟩
          rw [List.cons_append, tag?]
          · exact if_neg noLetter
          · intro ds eq
            exact slash (List.cons.inj eq).1
  · exact plain_of_ne angle _

/-- The letter of a tag stands before the next `<`. -/
theorem begins_takeWhile (h : Begins (c :: cs)) : Begins (c :: cs.takeWhile (· != '<')) := by
  obtain ⟨d, rest, letter, eq | eq⟩ := h
  all_goals
    obtain ⟨rfl, rfl⟩ := List.cons.inj eq
    have apart : (d != '<') = true := by
      rw [bne_iff_ne]
      rintro rfl
      cases letter
  · exact ⟨d, rest.takeWhile (· != '<'), letter, .inl (by rw [List.takeWhile_cons, if_pos apart])⟩
  · exact ⟨d, rest.takeWhile (· != '<'), letter, .inr (by simp [apart])⟩

theorem IsSegment.plain (h : IsSegment .text (c :: chars) rest) : Plain (c :: (chars ++ rest)) := by
  cases h with
  | text _ plain =>
    by_cases angle : c = '<'
    · subst angle
      exact plain [] chars rfl
    · exact plain_of_ne angle _

/-- A text that is cut off goes up to the next `<`. -/
theorem takeWhile_of_text (plain : Plain (c :: (chars ++ rest)))
    (first : segmentAt (c :: (chars ++ rest)) = (.text, (c :: chars).length)) :
    (chars ++ rest).takeWhile (· != '<') = chars := by
  rw [segmentAt_of_plain plain, textLength, List.tail_cons, Prod.mk.injEq, List.length_cons, Nat.add_comm,
    Nat.add_left_inj] at first
  have among := List.takeWhile_prefix (· != '<') (l := chars ++ rest)
  exact (List.prefix_of_prefix_length_le among (List.prefix_append _ _) (Nat.le_of_eq first.2)).eq_of_length first.2

/-- A segment that more text follows is cut off before any longer text, unless it is an unfinished tag. -/
theorem segmentAt_append (segment : IsSegment kind chars rest) (first : segmentAt (chars ++ rest) = (kind, chars.length))
    (some : rest ≠ []) (finished : ¬ Unfinished ⟨kind, chars⟩) (more : List Char) :
    segmentAt (chars ++ (rest ++ more)) = (kind, chars.length) := by
  cases segment with
  | comment h => exact segmentAt_comment (h.append some)
  | declaration h => exact segmentAt_declaration (h.append some)
  | endTag tag ends | startTag tag ends =>
    rw [← List.append_assoc, segmentAt_of_tag? (tag?_append tag), ends]
    rfl
  | text nonempty plain =>
    obtain ⟨c, chars, rfl⟩ := List.exists_cons_of_ne_nil nonempty
    have here := (IsSegment.text nonempty plain).plain
    have taken := takeWhile_of_text here first
    have shorter : chars.length ≠ (chars ++ rest).length := by
      have := List.length_pos_of_ne_nil some
      rw [List.length_append]
      omega
    have same : (chars ++ (rest ++ more)).takeWhile (· != '<') = chars := by
      rw [← List.append_assoc, List.takeWhile_append, taken, if_neg shorter]
    have other : ¬ Begins (c :: (chars ++ rest)) := fun begins => finished ⟨rfl, taken ▸ begins_takeWhile begins⟩
    have cut : c :: (chars ++ rest) ≠ ['<'] := fun eq => some (List.append_eq_nil_iff.mp (List.cons.inj eq).2).2
    have cut' : c :: (chars ++ rest) ≠ ['<', '/'] := by
      intro eq
      have tail : chars ++ rest = ['/'] := (List.cons.inj eq).2
      rw [tail] at taken shorter
      exact shorter (congrArg List.length taken).symm
    have longer : Plain (c :: (chars ++ (rest ++ more))) := by
      rw [← List.append_assoc]
      exact plain_append here other cut cut'
    rw [List.cons_append, segmentAt_of_plain longer, textLength, List.tail_cons, same, List.length_cons, Nat.add_comm]

theorem length_of_lower {written : List Char} (named : lower (String.ofList written) = name) :
    written.length = name.length := by
  rw [← String.length_toList, ← lower_ofList_eq_iff.mp named, List.length_map]

/-- The end tag of a raw text is the same whatever follows the character behind its name. -/
theorem closes_append_iff (long : name.length + 2 < cs.length) : Closes name (cs ++ more) ↔ Closes name cs := by
  constructor
  · rintro ⟨written, after, eq, named, border⟩
    obtain ⟨front, rfl⟩ : '<' :: '/' :: written <+: cs := by
      refine List.prefix_of_prefix_length_le ⟨after, eq.symm⟩ (List.prefix_append _ _) ?_
      simp only [List.length_cons, length_of_lower named]
      omega
    obtain rfl : front ++ more = after := by simpa using eq
    have some : front ≠ [] := by
      rintro rfl
      simp [length_of_lower named] at long
    rw [List.head?_append_of_ne_nil _ some] at border
    exact ⟨written, front, rfl, named, border⟩
  · rintro ⟨written, after, rfl, named, border⟩
    have some : after ≠ [] := by
      rintro rfl
      simp [length_of_lower named] at long
    refine ⟨written, after ++ more, by simp, named, ?_⟩
    rwa [List.head?_append_of_ne_nil _ some]

/-- No name of an element with raw text holds a `>`, so there is a character behind the name if there is a `>`. -/
theorem length_of_closes (raw : name ∈ rawTextNames) (h : Closes name rest) (angle : '>' ∈ rest) :
    name.length + 2 < rest.length := by
  obtain ⟨written, after, rfl, named, -⟩ := h
  have plain : ∀ name ∈ rawTextNames, '>' ∉ name.toList := by decide
  have none : '>' ∉ written := by
    intro among
    have lowered := List.mem_map_of_mem (f := Char.toLower) among
    rw [lower_ofList_eq_iff.mp named] at lowered
    exact plain name raw lowered
  have some : after ≠ [] := by
    rintro rfl
    simp [none] at angle
  have := List.length_pos_of_ne_nil some
  simp only [List.length_append, List.length_cons, length_of_lower named]
  omega

/-- A raw text that ends before some `>` ends there whatever follows. -/
theorem IsRawBehind.append (h : IsRawBehind kind raw rest) (angle : '>' ∈ rest) : IsRawBehind kind raw (rest ++ more) := by
  cases kind with
  | startTag name selfClosing =>
    simp only [IsRawBehind] at h ⊢
    by_cases all : name = "plaintext"
    · rw [if_pos all] at h
      rw [h] at angle
      cases angle
    rw [if_neg all] at h ⊢
    by_cases contents : name ∈ rawTextNames ∧ selfClosing = false
    · rw [if_pos contents] at h ⊢
      have some := List.ne_nil_of_mem angle
      refine h.append some fun cs => ?_
      rw [← List.append_assoc]
      refine closes_append_iff ?_
      have long := length_of_closes contents.1 (h.2.resolve_left some) angle
      rw [List.length_append]
      omega
    · rwa [if_neg contents] at h ⊢
  | _ => exact h

/-! ### The cut of a longer source -/

/-- Without a `>` there is no tag. -/
theorem tagsOf_eq_nil {ss : List Segment} (h : Segmented ss) (none : '>' ∉ textOf ss) (offset : Nat) :
    tagsOf offset ss = [] := by
  induction h generalizing offset with
  | nil => rfl
  | @cons kind chars raw ss first behind _ ih =>
    rw [textOf_cons] at none
    have later : '>' ∉ textOf ss := fun among => none (by simp [among])
    rw [← List.cons_append, tagsOf_append, ih later, List.append_nil]
    cases first with
    | startTag tag _ => exact absurd (angle_of_tag? tag) none
    | _ => exact tagsOf_raw (fun s hs => kind_of_mem_rawPart hs) _

/-- A start tag stays whatever follows. -/
theorem tagsOf_first (segment : IsSegment kind chars rest) (offset : Nat) (more : List Char) :
    tagsOf offset [⟨kind, chars⟩] <+: tagsOf offset (segments (chars ++ (rest ++ more))) := by
  have nonempty := segment.ne_nil
  cases segment with
  | startTag tag starts =>
    obtain ⟨raw, after, split, behind⟩ := exists_rawBehind (.startTag _ _) (rest ++ more)
    have first := segmentAt_of_tag? (show tag? (chars ++ rest ++ more) = _ from tag?_append tag)
    rw [starts, List.append_assoc, split] at first
    rw [split, segments_append nonempty first behind, ← List.singleton_append, tagsOf_append]
    exact List.prefix_append _ _
  | _ => exact List.nil_prefix

/-- A segment and the raw text behind it stay before any longer text, if there is a `>` further on. -/
theorem segments_append_append (segment : IsSegment kind chars (raw ++ rest)) (behind : IsRawBehind kind raw rest)
    (first : segmentAt (chars ++ (raw ++ rest)) = (kind, chars.length)) (finished : ¬ Unfinished ⟨kind, chars⟩)
    (angle : '>' ∈ rest) (more : List Char) :
    segments (chars ++ (raw ++ rest) ++ more) = ⟨kind, chars⟩ :: (rawPart raw ++ segments (rest ++ more)) := by
  have some : raw ++ rest ≠ [] := List.append_ne_nil_of_right_ne_nil _ (List.ne_nil_of_mem angle)
  have first := segmentAt_append segment first some finished more
  rw [List.append_assoc] at first
  rw [List.append_assoc, List.append_assoc]
  exact segments_append segment.ne_nil first (behind.append angle)

/-- The cut of a source begins with segments that it keeps before more text, up to the first unfinished tag. If there is no
`>` behind them, at least their tags are kept. -/
theorem exists_kept (cs : List Char) : ∃ front back, cs = textOf front ++ back ∧ segments cs = front ++ segments back ∧
    (∀ s ∈ front, ¬ Unfinished s) ∧ (∀ s ∈ (segments back).head?, Unfinished s) ∧
    ∀ more, segments (cs ++ more) = front ++ segments (back ++ more) ∨
      '>' ∉ back ∧ ∀ offset, tagsOf offset front <+: tagsOf offset (segments (cs ++ more)) := by
  -- The induction goes along the cut; each segment is cut off before the longer text too, or no tag follows it.
  induction h : cs.length using Nat.strongRecOn generalizing cs with
  | ind n ih =>
    by_cases empty : cs = []
    · subst empty
      exact ⟨[], [], rfl, rfl, nofun, nofun, fun _ => .inl rfl⟩
    · obtain ⟨kind, chars, tail, rfl, segment, first⟩ := exists_isSegment empty
      obtain ⟨raw, rest, rfl, behind⟩ := exists_rawBehind kind tail
      have nonempty := segment.ne_nil
      have whole := segments_append nonempty first behind
      by_cases unfinished : Unfinished ⟨kind, chars⟩
      · have head : ∀ s ∈ (segments (chars ++ (raw ++ rest))).head?, Unfinished s := by
          rw [whole]
          rintro s ⟨⟩
          exact unfinished
        exact ⟨[], _, rfl, rfl, nofun, head, fun _ => .inl rfl⟩
      have pos := List.length_pos_of_ne_nil nonempty
      have shorter : rest.length < n := by
        rw [← h, List.length_append, List.length_append]
        omega
      obtain ⟨front, back, rfl, cut, finished, head, kept⟩ := ih _ shorter rest rfl
      refine ⟨⟨kind, chars⟩ :: (rawPart raw ++ front), back, ?_, ?_, ?_, head, fun more => ?_⟩
      · rw [textOf_cons, List.append_assoc, List.append_assoc]
      · rw [whole, cut, List.cons_append, List.append_assoc]
      · rintro s hs
        rw [List.mem_cons, List.mem_append] at hs
        rcases hs with rfl | hs | hs
        · exact unfinished
        · rintro ⟨text, -⟩
          rw [kind_of_mem_rawPart hs] at text
          cases text
        · exact finished s hs
      · by_cases angle : '>' ∈ textOf front ++ back
        · have longer := segments_append_append segment behind first unfinished angle more
          rw [longer]
          rcases kept more with eq | ⟨none, tags⟩
          · exact .inl (by rw [eq, List.cons_append, List.append_assoc])
          · refine .inr ⟨none, fun offset => ?_⟩
            rw [← List.cons_append, ← List.cons_append, tagsOf_append, tagsOf_append, List.prefix_append_right_inj]
            exact tags _
        · refine .inr ⟨fun among => angle (by simp [among]), fun offset => ?_⟩
          have none (offset : Nat) : tagsOf offset front = [] := by
            obtain ⟨segmented, text⟩ := segmented_segments (textOf front ++ back)
            rw [← text] at angle
            have all := tagsOf_eq_nil segmented angle offset
            rw [cut, tagsOf_append] at all
            exact (List.append_eq_nil_iff.mp all).1
          rw [← List.singleton_append, tagsOf_append, tagsOf_append, none, tagsOf_raw fun s hs => kind_of_mem_rawPart hs,
            List.append_nil, List.append_nil, List.append_assoc]
          exact tagsOf_first segment offset more

/-! ### The end of an unfinished tag -/

theorem Begins.append (h : Begins cs) : Begins (cs ++ more) := by
  obtain ⟨c, rest, letter, rfl | rfl⟩ := h
  · exact ⟨c, rest ++ more, letter, .inl rfl⟩
  · exact ⟨c, rest ++ more, letter, .inr rfl⟩

theorem tagBody_append (h : Begins cs) (goesOn : tagBody cs = [] → more.dropWhile isNameChar = more) :
    tagBody (cs ++ more) = tagBody cs ++ more := by
  have behind {cs : List Char} (goesOn : cs.dropWhile isNameChar = [] → more.dropWhile isNameChar = more) :
      (cs ++ more).dropWhile isNameChar = cs.dropWhile isNameChar ++ more := by
    rw [List.dropWhile_append]
    split
    · rename_i none
      rw [List.isEmpty_iff.mp none, goesOn (List.isEmpty_iff.mp none)]
      rfl
    · rfl
  obtain ⟨c, rest, letter, rfl | rfl⟩ := h
  · have slash : c ≠ '/' := by
      rintro rfl
      cases letter
    have body (cs : List Char) : tagBody ('<' :: c :: cs) = (c :: cs).dropWhile isNameChar := by
      unfold tagBody
      split <;> simp_all
    rw [body] at goesOn ⊢
    rw [List.cons_append, List.cons_append, body]
    exact behind goesOn
  · exact behind goesOn

/-- A quote, if the tag stops in quotes, and a `>` complete an unfinished tag. -/
theorem exists_close (begins : Begins cs) (none : tag? cs = none) :
    ∃ close ∈ [">", "\">", "'>"], ∃ t, tag? (cs ++ close.toList) = some (t, (cs ++ close.toList).length) := by
  obtain ⟨n, -, scan, -⟩ := exists_ends begins
  rw [none] at scan
  have whole : byPlaces.Open (.plain, false) (tagBody cs) := TagReading.end?_eq_none_iff.mp scan.symm
  have completes {close : String} (goesOn : tagBody cs = [] → close.toList.dropWhile isNameChar = close.toList)
      (ends : ∃ slash, ∀ n, byPlaces.end? (byPlaces.behind (.plain, false) (tagBody cs)) n close.toList =
        some (slash, n + close.toList.length)) :
      ∃ t, tag? (cs ++ close.toList) = some (t, (cs ++ close.toList).length) := by
    have begins' : Begins (cs ++ close.toList) := begins.append
    obtain ⟨n, length, scan, -⟩ := exists_ends begins'
    rw [tagBody_append begins goesOn] at length scan
    obtain ⟨slash, ends⟩ := ends
    rw [TagReading.end?_append whole, ends] at scan
    obtain ⟨⟨t, m⟩, found, eq⟩ := Option.map_eq_some_iff.mp scan
    obtain ⟨-, rfl⟩ := Prod.mk.inj eq
    refine ⟨t, ?_⟩
    rw [found, ← length, List.length_append, Nat.add_assoc]
  -- The place where the tag stops says which of the three closes it.
  rcases hp : byPlaces.behind (.plain, false) (tagBody cs) with ⟨place, mark⟩
  cases quoted : place.quote? with
  | none =>
    refine ⟨">", by simp, completes (fun _ => rfl) ⟨mark, fun n => ?_⟩⟩
    rw [hp]
    simp [TagReading.end?, byPlaces, quoted]
  | some q =>
    obtain rfl : place = .quoted q := by
      cases place <;> cases quoted
      rfl
    have quote : isQuote q = true := isQuote_of_quoted (show placeBehind (tagBody cs) = .quoted q by rw [placeBehind, hp])
    have some : tagBody cs ≠ [] := by
      intro empty
      rw [empty] at hp
      cases hp
    rw [isQuote, Bool.or_eq_true, beq_iff_eq, beq_iff_eq] at quote
    rcases quote with rfl | rfl
    · refine ⟨"\">", by simp, completes (fun no => absurd no some) ⟨false, fun n => ?_⟩⟩
      rw [hp]
      rfl
    · refine ⟨"'>", by simp, completes (fun no => absurd no some) ⟨false, fun n => ?_⟩⟩
      rw [hp]
      rfl

/-- What completes the tag makes one segment of it and of all that follows it. -/
theorem exists_completion (nonempty : cs ≠ []) (head : ∀ s ∈ (segments cs).head?, Unfinished s) :
    ∃ close ∈ [">", "\">", "'>"], ∃ kind, segments (cs ++ close.toList) = [⟨kind, cs ++ close.toList⟩] := by
  obtain ⟨kind, chars, tail, rfl, segment, first⟩ := exists_isSegment nonempty
  obtain ⟨raw, rest, rfl, behind⟩ := exists_rawBehind kind tail
  rw [segments_append segment.ne_nil first behind] at head
  obtain ⟨rfl, begins⟩ : kind = .text ∧ Begins chars := head _ rfl
  have begins' : Begins (chars ++ (raw ++ rest)) := begins.append
  have none : tag? (chars ++ (raw ++ rest)) = none := by
    cases segment with
    | text _ plain =>
      obtain ⟨c, letters, -, rfl | rfl⟩ := begins
      · exact (plain [] _ rfl).2.2
      · exact (plain [] _ rfl).2.2
  obtain ⟨close, among, t, tag⟩ := exists_close begins' none
  refine ⟨close, among, if t.isEnd then .endTag else .startTag t.name t.selfClosing, ?_⟩
  generalize hw : chars ++ (raw ++ rest) ++ close.toList = whole at tag ⊢
  have nothing (kind : SegmentKind) : IsRawBehind kind [] [] := by
    obtain ⟨raw, rest, eq, behind⟩ := exists_rawBehind kind []
    obtain ⟨rfl, rfl⟩ := List.append_eq_nil_iff.mp eq.symm
    exact behind
  have split : whole = whole ++ ([] ++ []) := by simp
  have first := segmentAt_of_tag? tag
  rw [split] at first
  conv_lhs => rw [split]
  refine segments_append ?_ (by simpa using first) (nothing _)
  rintro rfl
  cases tag

/-- All that was found behind an unfinished tag is lost when the tag is completed. -/
theorem exists_lost (nonempty : cs ≠ []) (head : ∀ s ∈ (segments cs).head?, Unfinished s) (offset : Nat) :
    ∃ close ∈ [">", "\">", "'>"], ∀ x ∈ tagsOf offset (segments cs), x ∉ tagsOf offset (segments (cs ++ close.toList)) := by
  obtain ⟨close, among, kind, whole⟩ := exists_completion nonempty head
  refine ⟨close, among, fun x found again => ?_⟩
  have here : x.2 = offset := by
    rw [whole, tagsOf] at again
    split at again
    · obtain rfl := List.mem_singleton.mp again
      rfl
    · cases again
  cases cut : segments cs with
  | nil =>
    rw [cut] at found
    cases found
  | cons s ss =>
    obtain ⟨text, begins⟩ := head s (by rw [cut]; rfl)
    rw [cut, tagsOf, text] at found
    have behind := le_of_mem_tagsOf found
    have pos : 0 < byteLength s.chars := by
      refine byteLength_pos ?_
      rintro empty
      rw [empty] at begins
      obtain ⟨_, _, -, no | no⟩ := begins <;> cases no
    omega

end Longer

/-! ### Tags that stay -/

section Stay
variable {source more before before' : List Char} {offset : Nat} {l l' : Location}

theorem StartsBehind.unique (h : StartsBehind source offset before) (h' : StartsBehind source offset before') :
    before = before' := by
  obtain ⟨c, rest, eq, rfl⟩ := h
  obtain ⟨c', rest', eq', bytes⟩ := h'
  obtain ⟨more, rfl, -⟩ := exists_append_of_le eq eq' (Nat.le_of_eq bytes.symm)
  have none : more = [] := by
    by_contra some
    have := byteLength_pos some
    rw [byteLength_append] at bytes
    omega
  rw [none, List.append_nil]

/-- A reported tag as a start tag with its location. -/
def Reported (source : List Char) (x : String × Nat) (t : StartTag) : Prop :=
  t.name = x.1 ∧ Locates source x.2 t.location

theorem reported_unique : Relator.RightUnique (Reported source) := by
  rintro x ⟨name, l⟩ ⟨name', l'⟩ ⟨named, before, starts, located⟩ ⟨named', before', starts', located'⟩
  obtain rfl := starts.unique starts'
  simp_all

theorem Reported.append {x : String × Nat} {t : StartTag} (h : Reported source x t) (more : List Char) :
    Reported (source ++ more) x t := by
  obtain ⟨named, before, ⟨c, rest, rfl, bytes⟩, located⟩ := h
  exact ⟨named, before, ⟨c, rest ++ more, by simp, bytes⟩, located⟩

theorem reported_startTags (source : String) :
    List.Forall₂ (Reported source.toList) (tagsOf 0 (segments source.toList)) (startTags source) := by
  have zipped : ∀ (tags : List (String × Nat)) (ls : List Location),
      List.Forall₂ (Locates source.toList) (tags.map (·.2)) ls →
      List.Forall₂ (Reported source.toList) tags ((tags.zip ls).map fun x => ⟨x.1.1, x.2⟩) := by
    intro tags
    induction tags with
    | nil => exact fun _ _ => .nil
    | cons tag tags ih =>
      intro ls located
      cases located with
      | cons here later => exact .cons ⟨rfl, here⟩ (ih _ later)
  exact zipped _ _ (locates_tags source)

/-- The start tags of reported tags that stay before more text stay with their locations. -/
theorem take_prefix_startTags {source more : String} {tags : List (String × Nat)}
    (here : tags <+: tagsOf 0 (segments source.toList)) (later : tags <+: tagsOf 0 (segments (source ++ more).toList)) :
    (startTags source).take tags.length <+: startTags (source ++ more) := by
  have taken (source : String) (here : tags <+: tagsOf 0 (segments source.toList)) :
      List.Forall₂ (Reported source.toList) tags ((startTags source).take tags.length) := by
    have := List.forall₂_take tags.length (reported_startTags source)
    rwa [← List.prefix_iff_eq_take.mp here] at this
  have moved := (taken source here).imp fun x t h => h.append more.toList
  rw [← String.toList_append] at moved
  rw [reported_unique.forall₂ moved (taken _ later)]
  exact List.take_prefix _ _

/-- The start tags found behind an unfinished tag are all lost when that tag is completed. -/
theorem exists_close_lost {source : String} {front : List Segment} {back : List Char}
    (tags : tagsOf 0 (segments source.toList) = tagsOf 0 front ++ tagsOf (byteLength (textOf front)) (segments back))
    (loose : ((startTags source).drop (tagsOf 0 front).length).map (fun t => (t.name, t.location.offset)) =
      tagsOf (byteLength (textOf front)) (segments back))
    (head : ∀ s ∈ (segments back).head?, Unfinished s)
    (longer : '>' ∈ back → ∀ close : String, segments (source.toList ++ close.toList) = front ++ segments (back ++ close.toList)) :
    ∃ close ∈ [">", "\">", "'>"],
      ∀ t ∈ (startTags source).drop (tagsOf 0 front).length, t ∉ startTags (source ++ close) := by
  by_cases none : (startTags source).drop (tagsOf 0 front).length = []
  · refine ⟨">", by simp, ?_⟩
    rw [none]
    nofun
  have found : tagsOf (byteLength (textOf front)) (segments back) ≠ [] := by
    rw [← loose]
    exact fun empty => none (List.map_eq_nil_iff.mp empty)
  have angle : '>' ∈ back := by
    by_contra angle
    obtain ⟨segmented, text⟩ := segmented_segments back
    rw [← text] at angle
    exact found (tagsOf_eq_nil segmented angle _)
  obtain ⟨close, among, lost⟩ := exists_lost (List.ne_nil_of_mem angle) head (byteLength (textOf front))
  refine ⟨close, among, fun t ht again => ?_⟩
  have ht := List.mem_map_of_mem (f := fun t : StartTag => (t.name, t.location.offset)) ht
  have again := List.mem_map_of_mem (f := fun t : StartTag => (t.name, t.location.offset)) again
  rw [loose] at ht
  rw [startTags_eq_reported, String.toList_append, longer angle close, tagsOf_append, Nat.zero_add, List.mem_append] at again
  rcases again with before | behind
  · -- Tags are found in the order of the source, so none of those behind stands before as well.
    have ascend := pairwise_tagsOf 0 source.toList.length source.toList
    rw [← segments, tags, List.pairwise_append] at ascend
    exact Nat.lt_irrefl _ (ascend.2.2 _ before _ ht)
  · exact lost _ ht behind

end Stay

/-- A source is cut into segments none of which is an unfinished tag and, if there is one, the first unfinished tag with all
that follows it. The start tags among the first are start tags of every longer source, with their names and locations. Those
found behind are all lost when a `>` is appended, with a quote before it if the tag stops in quotes. So the start tags of a
source stay before any text exactly if none was found behind an unfinished tag. -/
theorem startTags_prefix_iff (source : String) :
    ∃ front back settled loose, segments source.toList = front ++ back ∧ (∀ s ∈ front, ¬ Unfinished s) ∧
      (∀ s ∈ back.head?, Unfinished s) ∧ startTags source = settled ++ loose ∧
      settled.map (fun t => (t.name, t.location.offset)) = tagsOf 0 front ∧
      (∀ more, settled <+: startTags (source ++ more)) ∧
      ((∀ more, startTags source <+: startTags (source ++ more)) ↔ loose = []) ∧
      (∃ close ∈ [">", "\">", "'>"], ∀ t ∈ loose, t ∉ startTags (source ++ close)) := by
  obtain ⟨front, back, text, cut, finished, head, kept⟩ := exists_kept source.toList
  have tags : tagsOf 0 (segments source.toList) = tagsOf 0 front ++ tagsOf (byteLength (textOf front)) (segments back) := by
    rw [cut, tagsOf_append, Nat.zero_add]
    rfl
  let n := (tagsOf 0 front).length
  have split : startTags source = (startTags source).take n ++ (startTags source).drop n :=
    (List.take_append_drop n _).symm
  have settled : ((startTags source).take n).map (fun t => (t.name, t.location.offset)) = tagsOf 0 front := by
    rw [List.map_take, startTags_eq_reported, tags, List.take_left]
  have loose : ((startTags source).drop n).map (fun t => (t.name, t.location.offset)) =
      tagsOf (byteLength (textOf front)) (segments back) := by
    rw [List.map_drop, startTags_eq_reported, tags, List.drop_left]
  have stays (more : String) : (startTags source).take n <+: startTags (source ++ more) := by
    refine take_prefix_startTags ⟨_, tags.symm⟩ ?_
    rw [String.toList_append]
    rcases kept more.toList with eq | ⟨-, stays⟩
    · rw [eq, tagsOf_append]
      exact List.prefix_append _ _
    · exact stays 0
  have lost := exists_close_lost tags loose head fun angle close =>
    (kept close.toList).resolve_right fun no => no.1 angle
  refine ⟨front, segments back, _, _, cut, finished, head, split, settled, stays, ⟨fun all => ?_, fun none => ?_⟩, lost⟩
  · obtain ⟨close, -, lost⟩ := lost
    refine List.eq_nil_iff_forall_not_mem.mpr fun t ht => lost t ht ?_
    exact (all close).subset (List.mem_of_mem_drop ht)
  · rw [split, none, List.append_nil]
    exact stays

/-- A tag that the source does not complete, and a tag in the value where it stops. -/
def openValuePage : String := "<a title=\"<body>"

/-- The page has no tag that is complete, and its body is located in the value. When the value and the tag are completed,
the tag found before is gone. -/
theorem startTags_openValuePage :
    (Document.parse default openValuePage).2 = .ok (Document.located openValuePage) ∧
      startTags openValuePage = [⟨"body", ⟨0, 11, 10⟩⟩] ∧ startTags (openValuePage ++ "\">") = [⟨"a", ⟨0, 1, 0⟩⟩] ∧
      ¬ startTags openValuePage <+: startTags (openValuePage ++ "\">") ∧
      names (Document.ofText openValuePage) = ["html", "head", "body"] ∧
      locate openValuePage (Document.ofText openValuePage) =
        rows (Document.ofText openValuePage).elements [none, none, some ⟨0, 11, 10⟩] := by
  have cut : startTags openValuePage = [⟨"body", ⟨0, 11, 10⟩⟩] := by decide +kernel
  have whole : startTags (openValuePage ++ "\">") = [⟨"a", ⟨0, 1, 0⟩⟩] := by decide +kernel
  refine ⟨Document.parse_of_lenient (by decide) rfl, cut, whole, ?_, by decide +kernel, by decide +kernel⟩
  rw [cut, whole]
  decide

end Pagewalk.Source
