import Mathlib.Data.List.Infix
import Mathlib.Data.List.TakeWhile
import Pagewalk.Proofs.Source.Lines
import Pagewalk.Proofs.Source.TagStates

/-!
# What the segments of a source are

A grammar says which segment may stand before which text: how far a comment, a declaration and a raw text go, and that no
`<` of a text opens anything. The cut of a source follows it and leaves nothing out, and every other way to follow it
finds the same tags at the same offsets.
-/

namespace Pagewalk.Source

open Text

/-! ### The grammar -/

/-- The first text goes up to the first place where something holds, or to the end if it holds nowhere. -/
def UpTo (p : List Char → Prop) (front back : List Char) : Prop :=
  (∀ before after, front = before ++ after → after ≠ [] → ¬ p (after ++ back)) ∧ (back = [] ∨ p back)

/-- The body goes up to the first mark, which closes it, or to the end of the source. -/
def ClosedBy (mark : String) (body close rest : List Char) : Prop :=
  UpTo (mark.toList <+: ·) body (close ++ rest) ∧ (close = mark.toList ∨ close = [] ∧ rest = [])

/-- A comment ends at its own marker, with its first `-->`, or with the source. -/
def IsComment (chars rest : List Char) : Prop :=
  chars = "<!-->".toList ∨ chars = "<!--->".toList ∨
    ∃ body close, chars = "<!--".toList ++ (body ++ close) ∧ ¬ ">".toList <+: body ++ (close ++ rest) ∧
      ¬ "->".toList <+: body ++ (close ++ rest) ∧ ClosedBy "-->" body close rest

/-- A declaration is no comment, and it ends with its first `>` or with the source. -/
def IsDeclaration (chars rest : List Char) : Prop :=
  ∃ mark body close, (mark = '!' ∨ mark = '?') ∧ chars = '<' :: mark :: (body ++ close) ∧
    ¬ "<!--".toList <+: chars ++ rest ∧ ClosedBy ">" body close rest

/-- No comment, declaration or tag begins here. -/
def Plain (cs : List Char) : Prop := ¬ "<!".toList <+: cs ∧ ¬ "<?".toList <+: cs ∧ tag? cs = none

/-- The end tag of a raw text: its name in any case, then a blank, a slash, a `>` or the end. -/
def Closes (name : String) (cs : List Char) : Prop :=
  ∃ written after, cs = '<' :: '/' :: (written ++ after) ∧ lower (String.ofList written) = name ∧
    ∀ c ∈ after.head?, isSpace c = true ∨ c = '/' ∨ c = '>'

/-- A segment of this kind, before the rest of a source. -/
inductive IsSegment : SegmentKind → List Char → List Char → Prop
  | text {chars rest : List Char} (some : chars ≠ [])
      (plain : ∀ before after, chars = before ++ '<' :: after → Plain ('<' :: after ++ rest)) :
      IsSegment .text chars rest
  | comment {chars rest : List Char} (comment : IsComment chars rest) : IsSegment .comment chars rest
  | declaration {chars rest : List Char} (declaration : IsDeclaration chars rest) : IsSegment .declaration chars rest
  | endTag {t : TagText} {chars rest : List Char} (tag : tag? (chars ++ rest) = some (t, chars.length))
      (ends : t.isEnd = true) : IsSegment .endTag chars rest
  | startTag {t : TagText} {chars rest : List Char} (tag : tag? (chars ++ rest) = some (t, chars.length))
      (starts : t.isEnd = false) : IsSegment (.startTag t.name t.selfClosing) chars rest

/-- The raw text behind a segment: all that follows a `plaintext` tag, and what stands before the end tag of an element
whose content is no markup. -/
def IsRawBehind (kind : SegmentKind) (raw rest : List Char) : Prop :=
  match kind with
  | .startTag name selfClosing =>
    if name = "plaintext" then rest = []
    else if name ∈ rawTextNames ∧ selfClosing = false then UpTo (Closes name) raw rest
    else raw = []
  | _ => raw = []

/-- A raw text as a segment, if there is any. -/
def rawPart : List Char → List Segment
  | [] => []
  | c :: cs => [⟨.raw, c :: cs⟩]

/-- The text of segments. -/
def textOf (ss : List Segment) : List Char := ss.flatMap Segment.chars

/-- Segments of a source, one after another. -/
inductive Segmented : List Segment → Prop
  | nil : Segmented []
  | cons {kind : SegmentKind} {chars raw : List Char} {ss : List Segment}
      (first : IsSegment kind chars (raw ++ textOf ss)) (behind : IsRawBehind kind raw (textOf ss))
      (rest : Segmented ss) : Segmented (⟨kind, chars⟩ :: (rawPart raw ++ ss))

/-! ### Up to the first place -/

section UpTo
variable {p : List Char → Prop} {c : Char} {front back body close rest cs : List Char}

theorem upTo_nil : UpTo p [] back ↔ back = [] ∨ p back := by
  simp only [UpTo, and_iff_right_iff_imp]
  rintro - before after eq some
  exact absurd (List.append_eq_nil_iff.mp eq.symm).2 some

theorem upTo_cons : UpTo p (c :: front) back ↔ ¬ p (c :: front ++ back) ∧ UpTo p front back := by
  constructor
  · rintro ⟨none, here⟩
    refine ⟨none [] _ rfl (List.cons_ne_nil _ _), fun before after eq => ?_, here⟩
    exact none (c :: before) after (by rw [eq, List.cons_append])
  · rintro ⟨first, none, here⟩
    refine ⟨fun before after eq some => ?_, here⟩
    cases before with
    | nil =>
      obtain rfl : c :: front = after := eq
      exact first
    | cons d before => exact none before after (List.cons.inj eq).2 some

theorem exists_upTo (p : List Char → Prop) (cs : List Char) : ∃ front back, cs = front ++ back ∧ UpTo p front back := by
  induction cs with
  | nil => exact ⟨[], [], rfl, upTo_nil.mpr (.inl rfl)⟩
  | cons c cs ih =>
    by_cases here : p (c :: cs)
    · exact ⟨[], c :: cs, rfl, upTo_nil.mpr (.inr here)⟩
    · obtain ⟨front, back, rfl, upTo⟩ := ih
      exact ⟨c :: front, back, rfl, upTo_cons.mpr ⟨here, upTo⟩⟩

theorem exists_closedBy (mark : String) (cs : List Char) :
    ∃ body close rest, cs = body ++ (close ++ rest) ∧ ClosedBy mark body close rest := by
  obtain ⟨body, back, rfl, upTo⟩ := exists_upTo (mark.toList <+: ·) cs
  rcases upTo.2 with rfl | ⟨rest, rfl⟩
  · exact ⟨body, [], [], rfl, upTo, .inr ⟨rfl, rfl⟩⟩
  · exact ⟨body, mark.toList, rest, rfl, upTo, .inl rfl⟩

/-- A search that goes on wherever nothing is found goes on up to the first place. -/
theorem search_append {f : Nat → List Char → Nat} (goesOn : ∀ n c cs, ¬ p (c :: cs) → f n (c :: cs) = f (n + 1) cs)
    (h : UpTo p front back) (n : Nat) : f n (front ++ back) = f (n + front.length) back := by
  induction front generalizing n with
  | nil => rfl
  | cons c front ih =>
    obtain ⟨first, h⟩ := upTo_cons.mp h
    calc f n (c :: (front ++ back))
      _ = f (n + 1) (front ++ back) := goesOn n c _ first
      _ = f (n + 1 + front.length) back := ih h (n + 1)
      _ = f (n + (c :: front).length) back := by rw [List.length_cons, Nat.add_assoc, Nat.add_comm 1]

theorem throughClose_closedBy (h : ClosedBy ">" body close rest) (n : Nat) :
    throughClose n (body ++ (close ++ rest)) = n + (body ++ close).length := by
  have goesOn : ∀ n c cs, ¬ ">".toList <+: c :: cs → throughClose n (c :: cs) = throughClose (n + 1) cs := by
    intro n c cs other
    rw [throughClose, if_neg]
    intro same
    rw [beq_iff_eq.mp same] at other
    exact other ⟨cs, rfl⟩
  rw [search_append goesOn h.1, List.length_append, ← Nat.add_assoc]
  rcases h.2 with rfl | ⟨rfl, rfl⟩ <;> rfl

theorem throughArrow_closedBy (h : ClosedBy "-->" body close rest) (n : Nat) :
    throughArrow n (body ++ (close ++ rest)) = n + (body ++ close).length := by
  have goesOn : ∀ n c cs, ¬ "-->".toList <+: c :: cs → throughArrow n (c :: cs) = throughArrow (n + 1) cs := by
    intro n c cs other
    rw [throughArrow.eq_def]
    split
    · rename_i rest eq
      exact absurd ⟨rest, eq.symm⟩ other
    · rename_i eq
      rw [(List.cons.inj eq).2]
    · contradiction
  rw [search_append goesOn h.1, List.length_append, ← Nat.add_assoc]
  rcases h.2 with rfl | ⟨rfl, rfl⟩ <;> rfl

/-! ### Raw text -/

theorem afterLetters?_eq_some_iff {letters after : List Char} :
    afterLetters? letters cs = some after ↔ ∃ written, cs = written ++ after ∧ written.map Char.toLower = letters := by
  induction letters generalizing cs with
  | nil => simp [afterLetters?, eq_comm]
  | cons l ls ih =>
    cases cs with
    | nil => simp [afterLetters?]
    | cons c cs =>
      rw [afterLetters?]
      constructor
      · intro h
        split at h
        · rename_i same
          obtain ⟨written, rfl, lowered⟩ := ih.mp h
          exact ⟨c :: written, rfl, by rw [List.map_cons, lowered, beq_iff_eq.mp same]⟩
        · cases h
      · rintro ⟨written, eq, lowered⟩
        cases written with
        | nil => cases lowered
        | cons d written =>
          obtain ⟨rfl, rfl⟩ := List.cons.inj eq
          obtain ⟨same, lowered⟩ := List.cons.inj lowered
          rw [if_pos (beq_iff_eq.mpr same)]
          exact ih.mpr ⟨written, rfl, lowered⟩

theorem lower_ofList_eq_iff {name : String} {written : List Char} :
    lower (String.ofList written) = name ↔ written.map Char.toLower = name.toList := by
  rw [lower, ← String.toList_inj, String.toList_map, String.toList_ofList]

theorem closesRaw_iff {name : String} : closesRaw name.toList cs = true ↔ Closes name cs := by
  constructor
  · intro h
    unfold closesRaw at h
    split at h
    · rename_i letters
      cases eq : afterLetters? name.toList letters with
      | none => simp [eq] at h
      | some after =>
        obtain ⟨written, rfl, lowered⟩ := afterLetters?_eq_some_iff.mp eq
        refine ⟨written, after, rfl, lower_ofList_eq_iff.mpr lowered, ?_⟩
        cases after with
        | nil => nofun
        | cons c after => simpa [eq, or_assoc, or_comm, or_left_comm] using h
    · cases h
  · rintro ⟨written, after, rfl, named, border⟩
    rw [closesRaw, afterLetters?_eq_some_iff.mpr ⟨written, rfl, lower_ofList_eq_iff.mp named⟩]
    cases after with
    | nil => rfl
    | cons c after => simpa [or_assoc, or_comm, or_left_comm] using border

/-- A raw text goes up to its end tag. -/
theorem rawLength_append {name : String} (h : UpTo (Closes name) front back) (n : Nat) :
    rawLength name.toList n (front ++ back) = n + front.length := by
  have goesOn : ∀ n c cs, ¬ Closes name (c :: cs) → rawLength name.toList n (c :: cs) = rawLength name.toList (n + 1) cs :=
    fun n c cs other => if_neg fun closes => other (closesRaw_iff.mp closes)
  rw [search_append goesOn h]
  cases back with
  | nil => rfl
  | cons c back =>
    have closes : Closes name (c :: back) := h.2.resolve_left (List.cons_ne_nil _ _)
    rw [rawLength, if_pos (closesRaw_iff.mpr closes)]

end UpTo

/-! ### The segment at a place -/

section Segments
variable {kind : SegmentKind} {t : TagText} {n m : Nat} {chars raw rest cs : List Char} {ss : List Segment}

/-- The letters of a start tag up to a blank, a slash or a `>` are its name, and they stand in the tag. -/
theorem name_of_tag? (tag : tag? (chars ++ rest) = some (t, chars.length)) (starts : t.isEnd = false) :
    t.name = lower (String.ofList (chars.tail.takeWhile isNameChar)) := by
  cases chars with
  | nil => exact absurd (tag?_bounds tag).1 (Nat.lt_irrefl 0)
  | cons c chars =>
    rw [List.cons_append] at tag
    unfold tag? at tag
    split at tag
    · obtain ⟨ends, -⟩ := tagFrom?_name tag
      rw [ends] at starts
      cases starts
    · rename_i eq
      obtain ⟨-, rfl⟩ := List.cons.inj eq
      obtain ⟨-, named, within, -⟩ := tagFrom?_name tag
      rw [List.takeWhile_append] at named within
      split at named
      · rename_i all
        rw [if_pos all, List.length_append, List.length_cons] at within
        omega
      · exact named
    · cases tag

/-- A tag that the scan accepts begins with `<` and a slash or a letter. -/
theorem plain_of_tag? (h : tag? cs = some (t, n)) : ¬ "<!".toList <+: cs ∧ ¬ "<?".toList <+: cs := by
  constructor <;> rintro ⟨rest, rfl⟩ <;> cases h

theorem segmentAt_of_tag? (h : tag? cs = some (t, n)) :
    segmentAt cs = (if t.isEnd then .endTag else .startTag t.name t.selfClosing, n) := by
  obtain ⟨bang, query⟩ := plain_of_tag? h
  unfold segmentAt
  split
  · exact absurd ⟨_, rfl⟩ bang
  · exact absurd ⟨_, rfl⟩ bang
  · exact absurd ⟨_, rfl⟩ query
  · rw [h]

theorem segmentAt_of_plain (h : Plain cs) : segmentAt cs = (.text, textLength cs) := by
  obtain ⟨bang, query, none⟩ := h
  unfold segmentAt
  split
  · exact absurd ⟨_, rfl⟩ bang
  · exact absurd ⟨_, rfl⟩ bang
  · exact absurd ⟨_, rfl⟩ query
  · rw [none]

theorem segmentAt_comment (h : IsComment chars rest) : segmentAt (chars ++ rest) = (.comment, chars.length) := by
  obtain rfl | rfl | ⟨body, close, rfl, angle, dash, closed⟩ := h
  · rfl
  · rfl
  · have length : commentLength (body ++ (close ++ rest)) = throughArrow 4 (body ++ (close ++ rest)) := by
      unfold commentLength
      split
      · rename_i eq
        exact absurd ⟨_, eq.symm⟩ angle
      · rename_i eq
        exact absurd ⟨_, eq.symm⟩ dash
      · rfl
    have at' : segmentAt ("<!--".toList ++ (body ++ close) ++ rest) =
        (.comment, commentLength (body ++ (close ++ rest))) := by
      rw [List.append_assoc, List.append_assoc]
      rfl
    have whole : ("<!--".toList ++ (body ++ close)).length = 4 + (body ++ close).length := List.length_append
    rw [at', length, throughArrow_closedBy closed, whole]

theorem segmentAt_declaration (h : IsDeclaration chars rest) :
    segmentAt (chars ++ rest) = (.declaration, chars.length) := by
  obtain ⟨mark, body, close, marked, rfl, other, closed⟩ := h
  have at' : segmentAt ('<' :: mark :: (body ++ close) ++ rest) =
      (.declaration, throughClose 2 (body ++ (close ++ rest))) := by
    rw [← List.append_assoc body]
    rcases marked with rfl | rfl
    · unfold segmentAt
      split
      · rename_i eq
        exact absurd ⟨_, eq.symm⟩ other
      · rename_i eq
        obtain rfl : body ++ close ++ rest = _ := (List.cons.inj (List.cons.inj eq).2).2
        rfl
      · rename_i eq
        cases eq
      · rename_i bang _
        exact absurd rfl (bang _)
    · rfl
  rw [at', throughClose_closedBy closed, Nat.add_comm]
  rfl

theorem IsSegment.ne_nil (h : IsSegment kind chars rest) : chars ≠ [] := by
  rintro rfl
  cases h with
  | text some _ => exact some rfl
  | comment h => obtain h | h | ⟨_, _, h, -⟩ := h <;> cases h
  | declaration h => obtain ⟨_, _, _, -, h, -⟩ := h; cases h
  | endTag tag _ | startTag tag _ => exact Nat.lt_irrefl 0 (tag?_bounds tag).1

/-- What is no text is cut off as the grammar has it. -/
theorem segmentAt_of_isSegment (h : IsSegment kind chars rest) (markup : kind ≠ .text) :
    segmentAt (chars ++ rest) = (kind, chars.length) := by
  cases h with
  | text => exact absurd rfl markup
  | comment h => exact segmentAt_comment h
  | declaration h => exact segmentAt_declaration h
  | endTag tag ends => rw [segmentAt_of_tag? tag, if_pos ends]
  | startTag tag starts => rw [segmentAt_of_tag? tag, if_neg (by simp [starts])]

theorem exists_comment (h : "<!--".toList <+: cs) : ∃ chars rest, cs = chars ++ rest ∧ IsComment chars rest := by
  obtain ⟨cs, rfl⟩ := h
  by_cases angle : ">".toList <+: cs
  · obtain ⟨rest, rfl⟩ := angle
    exact ⟨_, rest, rfl, .inl rfl⟩
  · by_cases dash : "->".toList <+: cs
    · obtain ⟨rest, rfl⟩ := dash
      exact ⟨_, rest, rfl, .inr (.inl rfl)⟩
    · obtain ⟨body, close, rest, rfl, closed⟩ := exists_closedBy "-->" cs
      exact ⟨_, rest, by simp only [List.append_assoc], .inr (.inr ⟨body, close, rfl, angle, dash, closed⟩)⟩

theorem exists_declaration (other : ¬ "<!--".toList <+: cs) (h : "<!".toList <+: cs ∨ "<?".toList <+: cs) :
    ∃ chars rest, cs = chars ++ rest ∧ IsDeclaration chars rest := by
  obtain ⟨mark, marked, cs, rfl⟩ : ∃ mark, (mark = '!' ∨ mark = '?') ∧ ∃ more, '<' :: mark :: more = cs := by
    rcases h with ⟨more, h⟩ | ⟨more, h⟩
    · exact ⟨'!', .inl rfl, more, h⟩
    · exact ⟨'?', .inr rfl, more, h⟩
  obtain ⟨body, close, rest, rfl, closed⟩ := exists_closedBy ">" cs
  have whole : '<' :: mark :: (body ++ (close ++ rest)) = '<' :: mark :: (body ++ close) ++ rest := by simp
  exact ⟨_, rest, whole, mark, body, close, marked, rfl, whole ▸ other, closed⟩

/-- At every place of a source stands a segment. -/
theorem exists_isSegment (nonempty : cs ≠ []) : ∃ kind chars rest, cs = chars ++ rest ∧ IsSegment kind chars rest ∧
    segmentAt cs = (kind, chars.length) := by
  by_cases comment : "<!--".toList <+: cs
  · obtain ⟨chars, rest, rfl, h⟩ := exists_comment comment
    exact ⟨_, chars, rest, rfl, .comment h, segmentAt_comment h⟩
  by_cases declaration : "<!".toList <+: cs ∨ "<?".toList <+: cs
  · obtain ⟨chars, rest, rfl, h⟩ := exists_declaration comment declaration
    exact ⟨_, chars, rest, rfl, .declaration h, segmentAt_declaration h⟩
  cases tag : tag? cs with
  | some found =>
    obtain ⟨t, n⟩ := found
    have fits : (cs.take n).length = n := List.length_take_of_le (tag?_bounds tag).2
    have split : cs = cs.take n ++ cs.drop n := (List.take_append_drop n cs).symm
    have tag' : tag? (cs.take n ++ cs.drop n) = some (t, (cs.take n).length) := by rw [← split, fits, tag]
    cases ends : t.isEnd with
    | true =>
      exact ⟨_, _, _, split, .endTag tag' ends, by rw [segmentAt_of_tag? tag, fits, ends]; rfl⟩
    | false =>
      exact ⟨_, _, _, split, .startTag tag' ends, by rw [segmentAt_of_tag? tag, fits, ends]; rfl⟩
  | none =>
    have plain : Plain cs := ⟨fun h => declaration (.inl h), fun h => declaration (.inr h), tag⟩
    obtain ⟨c, cs, rfl⟩ := List.exists_cons_of_ne_nil nonempty
    have split : c :: cs = c :: cs.takeWhile (· != '<') ++ cs.dropWhile (· != '<') := by
      rw [List.cons_append, List.takeWhile_append_dropWhile]
    refine ⟨_, _, _, split, .text (List.cons_ne_nil _ _) ?_, ?_⟩
    · intro before after eq
      cases before with
      | nil =>
        obtain ⟨rfl, rfl⟩ := List.cons.inj eq
        rwa [← split]
      | cons d before =>
        have among : '<' ∈ cs.takeWhile (· != '<') := by rw [(List.cons.inj eq).2]; simp
        simpa using List.mem_takeWhile_imp among
    · rw [segmentAt_of_plain plain, textLength, List.tail_cons, List.length_cons, Nat.add_comm]

theorem exists_rawBehind (kind : SegmentKind) (cs : List Char) :
    ∃ raw rest, cs = raw ++ rest ∧ IsRawBehind kind raw rest := by
  have none : cs = [] ++ cs := rfl
  cases kind with
  | startTag name selfClosing =>
    simp only [IsRawBehind]
    split
    · exact ⟨cs, [], (List.append_nil cs).symm, rfl⟩
    · split
      · exact exists_upTo _ _
      · exact ⟨[], cs, none, rfl⟩
  | _ => exact ⟨[], cs, none, rfl⟩

theorem rawAfter_of_isRawBehind (h : IsRawBehind kind raw rest) : rawAfter kind (raw ++ rest) = raw.length := by
  cases kind with
  | startTag name selfClosing =>
    simp only [IsRawBehind] at h
    by_cases all : name = "plaintext"
    · rw [if_pos all] at h
      rw [rawAfter, if_pos (beq_iff_eq.mpr all), h, List.append_nil]
    · rw [if_neg all] at h
      rw [rawAfter, if_neg (by simpa using all)]
      by_cases contents : name ∈ rawTextNames ∧ selfClosing = false
      · rw [if_pos contents] at h
        rw [if_pos (by simpa using contents), rawLength_append h, Nat.zero_add]
      · rw [if_neg contents] at h
        rw [if_neg (by simpa using contents), h]
        rfl
  | _ =>
    obtain rfl : raw = [] := h
    rfl

/-! ### The cut -/

/-- A segment and the raw text behind it are cut off together. -/
theorem cut_append (fuel : Nat) (nonempty : chars ≠ []) (first : segmentAt (chars ++ (raw ++ rest)) = (kind, chars.length))
    (behind : rawAfter kind (raw ++ rest) = raw.length) :
    cut (fuel + 1) [] (chars ++ (raw ++ rest)) = ⟨kind, chars⟩ :: (rawPart raw ++ cut fuel [] rest) := by
  obtain ⟨c, chars, rfl⟩ := List.exists_cons_of_ne_nil nonempty
  rw [List.cons_append] at first ⊢
  rw [cut, first]
  simp only [List.splitAt_eq, ← List.cons_append, List.drop_left, List.take_left, behind]
  cases raw with
  | nil =>
    rw [cut_acc]
    rfl
  | cons d raw =>
    simp only [List.length_cons]
    rw [← List.length_cons (a := d), List.drop_left, List.take_left, cut_acc]
    rfl

theorem cut_nil (fuel : Nat) : cut fuel [] [] = [] := by
  cases fuel <;> rfl

/-- Every cut takes a character, so as many cuts as characters are enough. -/
theorem cut_eq_cut {fuel fuel' : Nat} (enough : cs.length ≤ fuel) (enough' : cs.length ≤ fuel') :
    cut fuel [] cs = cut fuel' [] cs := by
  -- Both ways the same segment is cut off, and what is left is shorter by its characters.
  induction fuel generalizing fuel' cs with
  | zero => rw [List.length_eq_zero_iff.mp (Nat.le_zero.mp enough), cut_nil, cut_nil]
  | succ fuel ih =>
    by_cases empty : cs = []
    · rw [empty, cut_nil, cut_nil]
    · obtain ⟨kind, chars, tail, rfl, segment, first⟩ := exists_isSegment empty
      obtain ⟨raw, rest, rfl, behind⟩ := exists_rawBehind kind tail
      have some := segment.ne_nil
      have pos := List.length_pos_of_ne_nil some
      rw [List.length_append, List.length_append] at enough enough'
      obtain ⟨fuel', rfl⟩ := Nat.exists_eq_add_one_of_ne_zero (n := fuel') (by omega)
      have after := rawAfter_of_isRawBehind behind
      have same : cut fuel [] rest = cut fuel' [] rest := ih (by omega) (by omega)
      rw [cut_append _ some first after, cut_append _ some first after, same]

theorem segments_append (nonempty : chars ≠ []) (first : segmentAt (chars ++ (raw ++ rest)) = (kind, chars.length))
    (behind : IsRawBehind kind raw rest) :
    segments (chars ++ (raw ++ rest)) = ⟨kind, chars⟩ :: (rawPart raw ++ segments rest) := by
  have pos := List.length_pos_of_ne_nil nonempty
  have some : (chars ++ (raw ++ rest)).length ≠ 0 := by
    rw [List.length_append]
    omega
  obtain ⟨fuel, length⟩ := Nat.exists_eq_add_one_of_ne_zero some
  have enough : rest.length ≤ fuel := by
    rw [List.length_append, List.length_append] at length
    omega
  have same : cut fuel [] rest = segments rest := cut_eq_cut enough (Nat.le_refl _)
  rw [segments, length, cut_append fuel nonempty first (rawAfter_of_isRawBehind behind), same]

theorem textOf_rawPart (raw : List Char) : textOf (rawPart raw) = raw := by
  cases raw with
  | nil => rfl
  | cons c raw => exact List.append_nil _

theorem textOf_cons (kind : SegmentKind) (chars raw : List Char) (ss : List Segment) :
    textOf (⟨kind, chars⟩ :: (rawPart raw ++ ss)) = chars ++ (raw ++ textOf ss) := by
  have part : (rawPart raw).flatMap Segment.chars = raw := textOf_rawPart raw
  rw [textOf, List.flatMap_cons, List.flatMap_append, part]
  rfl

/-- The cut follows the grammar and leaves nothing out. -/
theorem segmented_segments (cs : List Char) : Segmented (segments cs) ∧ textOf (segments cs) = cs := by
  induction h : cs.length using Nat.strongRecOn generalizing cs with
  | ind n ih =>
    by_cases empty : cs = []
    · subst empty
      exact ⟨.nil, rfl⟩
    · obtain ⟨kind, chars, tail, rfl, segment, first⟩ := exists_isSegment empty
      obtain ⟨raw, rest, rfl, behind⟩ := exists_rawBehind kind tail
      have pos := List.length_pos_of_ne_nil segment.ne_nil
      have shorter : rest.length < n := by
        rw [← h, List.length_append, List.length_append]
        omega
      obtain ⟨segmented, text⟩ := ih _ shorter rest rfl
      rw [segments_append segment.ne_nil first behind]
      rw [← text] at segment behind
      exact ⟨.cons segment behind segmented, by rw [textOf_cons, text]⟩

/-! ### The tags of any segmentation -/

theorem plain_of_ne {c : Char} (other : c ≠ '<') (cs : List Char) : Plain (c :: cs) := by
  refine ⟨?_, ?_, ?_⟩
  · rintro ⟨rest, eq⟩
    exact other (List.cons.inj eq).1.symm
  · rintro ⟨rest, eq⟩
    exact other (List.cons.inj eq).1.symm
  · unfold tag?
    split <;> simp_all

theorem segments_of_plain {c : Char} (h : Plain (c :: cs)) : segments (c :: cs) =
    ⟨.text, c :: cs.takeWhile (· != '<')⟩ :: segments (cs.dropWhile (· != '<')) := by
  have split : c :: cs = c :: cs.takeWhile (· != '<') ++ ([] ++ cs.dropWhile (· != '<')) := by
    rw [List.cons_append, List.nil_append, List.takeWhile_append_dropWhile]
  have first := segmentAt_of_plain h
  rw [textLength, List.tail_cons, Nat.add_comm, ← List.length_cons (a := c)] at first
  rw [split] at first
  conv_lhs => rw [split]
  exact segments_append (List.cons_ne_nil _ _) first rfl

/-- A character at which nothing begins moves the tags behind it. -/
theorem tagsOf_plain {c : Char} (h : Plain (c :: cs)) (offset : Nat) :
    tagsOf offset (segments (c :: cs)) = tagsOf (offset + c.utf8Size) (segments cs) := by
  rw [segments_of_plain h, tagsOf]
  cases cs with
  | nil => rfl
  | cons d cs =>
    by_cases angle : d = '<'
    · subst angle
      simp [byteLength]
    · rw [segments_of_plain (plain_of_ne angle cs), tagsOf]
      simp [byteLength_cons, angle, Nat.add_assoc]

theorem tagsOf_text (plain : ∀ before after, chars = before ++ '<' :: after → Plain ('<' :: after ++ rest)) (offset : Nat) :
    tagsOf offset (segments (chars ++ rest)) = tagsOf (offset + byteLength chars) (segments rest) := by
  induction chars generalizing offset with
  | nil => rfl
  | cons c chars ih =>
    have here : Plain (c :: (chars ++ rest)) := by
      by_cases angle : c = '<'
      · subst angle
        exact plain [] chars rfl
      · exact plain_of_ne angle _
    rw [List.cons_append, tagsOf_plain here, ih fun before after eq => plain (c :: before) after (by rw [eq]; rfl),
      byteLength_cons, Nat.add_assoc]

/-- Segments of a source have the tags of its cut. -/
theorem tagsOf_of_segmented (h : Segmented ss) (offset : Nat) : tagsOf offset ss = tagsOf offset (segments (textOf ss)) := by
  induction h generalizing offset with
  | nil => rfl
  | @cons kind chars raw ss first behind _ ih =>
    rw [textOf_cons]
    -- Text may be cut into other pieces than the cut has; every other segment is the one that the cut has.
    by_cases text : kind = .text
    · subst text
      obtain rfl : raw = [] := behind
      cases first with
      | text _ plain =>
        have moved := tagsOf_text plain offset
        rw [List.nil_append] at moved ⊢
        rw [moved, ← ih]
        rfl
    · rw [segments_append first.ne_nil (segmentAt_of_isSegment first text) behind, ← List.cons_append, ← List.cons_append,
        tagsOf_append, tagsOf_append, ih]

theorem kind_of_mem_rawPart {s : Segment} (h : s ∈ rawPart raw) : s.kind = .raw := by
  cases raw with
  | nil => cases h
  | cons c raw => rw [List.mem_singleton.mp h]

/-- The name of a start tag among segments is what stands in it behind the `<`, in small letters. -/
theorem name_of_segmented {name : String} {selfClosing : Bool} (h : Segmented ss) {s : Segment} (hs : s ∈ ss)
    (start : s.kind = .startTag name selfClosing) :
    name = lower (String.ofList (s.chars.tail.takeWhile isNameChar)) := by
  induction h with
  | nil => cases hs
  | @cons kind chars raw ss first _ _ ih =>
    rw [List.mem_cons, List.mem_append] at hs
    rcases hs with rfl | hs | hs
    · obtain rfl : kind = .startTag name selfClosing := start
      cases first with
      | startTag tag starts => exact name_of_tag? tag starts
    · rw [kind_of_mem_rawPart hs] at start
      cases start
    · exact ih hs

end Segments

/-- The segments of every source follow the grammar and put together they are the source. The reported tags are the start
tags among them, each with its name in small letters and with its offset, and any other way to follow the grammar over the
same source has the same tags. -/
theorem startTags_segmented (source : String) :
    let ss := segments source.toList
    Segmented ss ∧ textOf ss = source.toList ∧
      (startTags source).map (fun t => (t.name, t.location.offset)) = tagsOf 0 ss ∧
      (∀ s ∈ ss, ∀ name selfClosing, s.kind = .startTag name selfClosing →
        name = lower (String.ofList (s.chars.tail.takeWhile isNameChar))) ∧
      ∀ ts, Segmented ts → textOf ts = source.toList →
        (startTags source).map (fun t => (t.name, t.location.offset)) = tagsOf 0 ts := by
  intro ss
  obtain ⟨segmented, text⟩ := segmented_segments source.toList
  refine ⟨segmented, text, startTags_eq_reported source, fun s hs name selfClosing => name_of_segmented segmented hs, ?_⟩
  intro ts other same
  rw [startTags_eq_reported, tagsOf_of_segmented other, same]

/-- A text with a `<` in it, a comment with a tag in it, and the end tag of a raw text in capitals. -/
def rawPage : String := "1 < 2<!--<i>--><STYLE>a<b></Style><p>"

/-- The text in one piece is another way to follow the grammar, with the same two tags. -/
theorem startTags_segmented_rawPage :
    let ts : List Segment := [⟨.text, "1 < 2".toList⟩, ⟨.comment, "<!--<i>-->".toList⟩,
      ⟨.startTag "style" false, "<STYLE>".toList⟩, ⟨.raw, "a<b>".toList⟩, ⟨.endTag, "</Style>".toList⟩,
      ⟨.startTag "p" false, "<p>".toList⟩]
    Segmented ts ∧ textOf ts = rawPage.toList ∧ ts ≠ segments rawPage.toList ∧
      (startTags rawPage).map (fun t => (t.name, t.location.offset)) = [("style", 15), ("p", 34)] := by
  intro ts
  have style : IsSegment (.startTag "style" false) "<STYLE>".toList "a<b></Style><p>".toList :=
    .startTag (t := ⟨"style", false, false⟩) (by decide +kernel) rfl
  have raw : IsRawBehind (.startTag "style" false) "a<b>".toList "</Style><p>".toList := by
    show UpTo (Closes "style") ['a', '<', 'b', '>'] _
    simp only [upTo_cons, upTo_nil, ← closesRaw_iff]
    decide +kernel
  have comment : IsSegment .comment "<!--<i>-->".toList "<STYLE>a<b></Style><p>".toList := by
    refine .comment (.inr (.inr ⟨"<i>".toList, "-->".toList, rfl, by decide +kernel, by decide +kernel, ?_, .inl rfl⟩))
    show UpTo _ ['<', 'i', '>'] _
    simp only [upTo_cons, upTo_nil]
    decide +kernel
  have text : IsSegment .text "1 < 2".toList "<!--<i>--><STYLE>a<b></Style><p>".toList := by
    refine .text (by decide +kernel) fun before after eq => ?_
    have split : "1 ".toList ++ '<' :: " 2".toList = before ++ '<' :: after := eq
    obtain ⟨-, -, rfl⟩ := (List.append_cons_inj_of_notMem (by decide +kernel) (by decide +kernel)).mp split
    exact ⟨by decide +kernel, by decide +kernel, by decide +kernel⟩
  have segmented : Segmented ts :=
    @Segmented.cons _ _ [] _ text rfl <| @Segmented.cons _ _ [] _ comment rfl <|
      @Segmented.cons _ _ "a<b>".toList _ style raw <|
      @Segmented.cons _ _ [] _ (.endTag (t := ⟨"style", true, false⟩) (by decide +kernel) rfl) rfl <|
      @Segmented.cons _ _ [] _ (.startTag (t := ⟨"p", false, false⟩) (by decide +kernel) rfl) rfl .nil
  refine ⟨segmented, rfl, by decide +kernel, ?_⟩
  rw [(startTags_segmented rawPage).2.2.2.2 ts segmented rfl]
  decide +kernel

end Pagewalk.Source
