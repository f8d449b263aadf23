import Mathlib.Data.List.Forall2
import Mathlib.Data.List.Induction
import Mathlib.Data.List.TakeWhile
import Pagewalk.Proofs.Source.Positions

/-!
# Lines and columns

A location is read off the text before it: its line is the number of lines that end there, and its column is one more
than the sixteen-bit units behind the last line end. A carriage return and the line feed after it end one line, at the
carriage return. The pass over a source keeps this for every prefix, so it finds the location of every offset at which a
character starts. A start tag begins with a character that ends no line, and so no two of them share line and column.
-/

namespace Pagewalk.Source

open Text

/-! ### The text before a place -/

/-- A line feed or a carriage return. -/
def isLineEnd (c : Char) : Bool := c == '\n' || c == '\r'

/-- The number of lines that end in a text. -/
def lineEnds : List Char → Nat
  | [] => 0
  | '\r' :: '\n' :: cs => lineEnds cs + 1
  | c :: cs => lineEnds cs + if isLineEnd c then 1 else 0

/-- The characters behind the last line end. -/
def lastLine (cs : List Char) : List Char := (cs.reverse.takeWhile fun c => !isLineEnd c).reverse

/-- The location behind a text with which a source begins. -/
def locationBehind (before : List Char) : Location :=
  ⟨lineEnds before, 1 + (CodeUnits.ofChars (lastLine before)).size, byteLength before⟩

/-- A character of a source starts at an offset, behind this text. -/
def StartsBehind (source : List Char) (offset : Nat) (before : List Char) : Prop :=
  ∃ c rest, source = before ++ c :: rest ∧ byteLength before = offset

section Text

variable {c : Char} {cs ds : List Char}

theorem lineEnds_cons (h : c = '\r' → cs.head? ≠ some '\n') :
    lineEnds (c :: cs) = lineEnds cs + if isLineEnd c then 1 else 0 := by
  rw [lineEnds.eq_def]
  split
  · contradiction
  · rename_i eq
    obtain ⟨rfl, rfl⟩ := List.cons.inj eq
    exact absurd rfl (h rfl)
  · rename_i eq
    obtain ⟨rfl, rfl⟩ := List.cons.inj eq
    rfl

/-- The lines that end in two texts end in both together, unless a line end is cut in two. -/
theorem lineEnds_append (h : cs.getLast? = some '\r' → ds.head? ≠ some '\n') :
    lineEnds (cs ++ ds) = lineEnds cs + lineEnds ds := by
  induction cs using lineEnds.induct with
  | case1 => simp [lineEnds]
  | case2 cs ih =>
    have last : cs.getLast? = some '\r' → ds.head? ≠ some '\n' := fun hl => h (by simp [List.getLast?_cons, hl])
    rw [List.cons_append, List.cons_append, lineEnds, lineEnds, ih last]
    omega
  | case3 c cs other ih =>
    have last : cs.getLast? = some '\r' → ds.head? ≠ some '\n' := fun hl => h (by simp [List.getLast?_cons, hl])
    have apart : c = '\r' → cs.head? ≠ some '\n' := by
      rintro rfl hn
      obtain ⟨rest, rfl⟩ := List.head?_eq_some_iff.mp hn
      exact other rest rfl rfl
    have apart' : c = '\r' → (cs ++ ds).head? ≠ some '\n' := by
      rintro rfl hn
      cases cs with
      | nil => exact h rfl hn
      | cons d cs => exact apart rfl hn
    rw [List.cons_append, lineEnds_cons apart', lineEnds_cons apart, ih last]
    omega

theorem lineEnds_eq_zero_iff : lineEnds cs = 0 ↔ ∀ c ∈ cs, isLineEnd c = false := by
  induction cs using lineEnds.induct with
  | case1 => simp [lineEnds]
  | case2 cs ih => simp [lineEnds, isLineEnd]
  | case3 c cs other ih =>
    have apart : c = '\r' → cs.head? ≠ some '\n' := by
      rintro rfl hn
      obtain ⟨rest, rfl⟩ := List.head?_eq_some_iff.mp hn
      exact other rest rfl rfl
    rw [lineEnds_cons apart, List.forall_mem_cons, ← ih]
    cases isLineEnd c <;> simp

/-- One character more ends a line, unless it is the second half of a line end. -/
theorem lineEnds_concat (cs : List Char) (c : Char) :
    lineEnds (cs ++ [c]) = lineEnds cs +
      if isLineEnd c && !(c == '\n' && cs.getLast? == some '\r') then 1 else 0 := by
  by_cases halved : c = '\n' ∧ cs.getLast? = some '\r'
  · obtain ⟨rfl, last⟩ := halved
    obtain ⟨front, rfl⟩ := List.getLast?_eq_some_iff.mp last
    have whole : lineEnds ((front ++ ['\r']) ++ ['\n']) = lineEnds front + 1 := by
      rw [List.append_assoc, List.singleton_append, lineEnds_append (by simp)]
      rfl
    have half : lineEnds (front ++ ['\r']) = lineEnds front + 1 := lineEnds_append (by simp)
    rw [whole, half]
    simp
  · have apart : cs.getLast? = some '\r' → [c].head? ≠ some '\n' := by
      intro last same
      exact halved ⟨Option.some.inj same, last⟩
    rw [lineEnds_append apart, lineEnds_cons (by simp)]
    have mark : (c == '\n' && cs.getLast? == some '\r') = false := by
      rw [← Bool.not_eq_true]
      simpa using halved
    simp [mark, lineEnds]

theorem lastLine_concat (cs : List Char) (c : Char) :
    lastLine (cs ++ [c]) = if isLineEnd c then [] else lastLine cs ++ [c] := by
  rw [lastLine, List.reverse_append, List.reverse_singleton, List.singleton_append, List.takeWhile_cons]
  cases isLineEnd c <;> simp [lastLine]

theorem lastLine_append (h : ∀ c ∈ ds, isLineEnd c = false) : lastLine (cs ++ ds) = lastLine cs ++ ds := by
  have all : ds.reverse.takeWhile (fun c => !isLineEnd c) = ds.reverse := by
    rw [List.takeWhile_eq_self_iff]
    intro c hc
    simp [h c (List.mem_reverse.mp hc)]
  rw [lastLine, List.reverse_append, List.takeWhile_append, if_pos (congrArg List.length all)]
  simp [lastLine]

theorem length_unitsOfChar (c : Char) : (unitsOfChar c).length = unitWidth c := by
  rw [unitsOfChar, unitWidth]
  split <;> rfl

theorem size_ofChars_append (cs ds : List Char) :
    (CodeUnits.ofChars (cs ++ ds)).size = (CodeUnits.ofChars cs).size + (CodeUnits.ofChars ds).size := by
  simp [CodeUnits.ofChars, CodeUnits.size]

theorem size_ofChars_cons (c : Char) (cs : List Char) :
    (CodeUnits.ofChars (c :: cs)).size = unitWidth c + (CodeUnits.ofChars cs).size := by
  simp [CodeUnits.ofChars, CodeUnits.size, ← length_unitsOfChar]

theorem unitWidth_pos (c : Char) : 0 < unitWidth c := by
  rw [unitWidth]
  split <;> decide

end Text

/-! ### The pass over a source -/

theorem lastLine_of_ends {cs : List Char} {c : Char} (ends : isLineEnd c = true) (last : cs.getLast? = some c) :
    lastLine cs = [] := by
  obtain ⟨front, rfl⟩ := List.getLast?_eq_some_iff.mp last
  rw [lastLine_concat, if_pos ends]

/-- The location goes on by a character as the pass does. -/
theorem next_locationBehind (before : List Char) (c : Char) :
    Position.next ⟨locationBehind before, before.getLast? == some '\r'⟩ c =
      ⟨locationBehind (before ++ [c]), c == '\r'⟩ := by
  have bytes : byteLength (before ++ [c]) = byteLength before + c.utf8Size := by
    rw [byteLength_append, byteLength_cons]
    rfl
  have lines := lineEnds_concat before c
  have line := lastLine_concat before c
  simp only [Position.next, locationBehind]
  by_cases halved : (c == '\n' && before.getLast? == some '\r') = true
  · -- The line ended at the carriage return, so there is nothing in it yet.
    simp only [Bool.and_eq_true, beq_iff_eq] at halved
    obtain ⟨rfl, last⟩ := halved
    have nothing : lastLine before = [] := lastLine_of_ends rfl last
    simp [lines, line, bytes, last, nothing, isLineEnd]
  · rw [Bool.not_eq_true] at halved
    cases ends : isLineEnd c with
    | true =>
      have ends' : (c == '\n' || c == '\r') = true := ends
      simp only [halved, ends', lines, line, bytes, ends, Bool.false_eq_true, if_false, if_true]
      rfl
    | false =>
      obtain ⟨feed, other⟩ := Bool.or_eq_false_iff.mp ends
      have single : (CodeUnits.ofChars [c]).size = unitWidth c := size_ofChars_cons c []
      simp only [feed, other, lines, line, bytes, ends, size_ofChars_append, single, Bool.false_and, Bool.or_false,
        Bool.false_eq_true, if_false, Nat.add_zero, Nat.add_assoc]

/-- Behind every text with which a source begins, the pass stands at the location behind it. -/
theorem foldl_next (before : List Char) :
    before.foldl Position.next .start = ⟨locationBehind before, before.getLast? == some '\r'⟩ := by
  induction before using List.reverseRecOn with
  | nil => rfl
  | append_singleton before c ih =>
    rw [List.foldl_append, ih, List.foldl_cons, List.foldl_nil, next_locationBehind, List.getLast?_concat]
    rfl

/-- Of ascending offsets none of which is passed, the first is reached if it is where the pass stands. -/
theorem reached_ascending {p : Position} {os : List Nat} (acc : List Location) (ascend : os.Pairwise (· < ·))
    (ahead : ∀ o ∈ os, p.location.offset ≤ o) :
    reached p acc os = (acc, os) ∧ p.location.offset ∉ os ∨
      ∃ rest, os = p.location.offset :: rest ∧ reached p acc os = (p.location :: acc, rest) := by
  cases os with
  | nil => exact .inl ⟨rfl, List.not_mem_nil⟩
  | cons o os =>
    obtain ⟨later, ascend⟩ := List.pairwise_cons.mp ascend
    have here := ahead o List.mem_cons_self
    rcases Nat.eq_or_lt_of_le here with rfl | passed
    · refine .inr ⟨os, rfl, ?_⟩
      rw [reached, if_pos (Nat.le_refl _)]
      cases os with
      | nil => rfl
      | cons o' os => rw [reached, if_neg (Nat.not_le.mpr (later o' List.mem_cons_self))]
    · refine .inl ⟨?_, ?_⟩
      · rw [reached, if_neg (Nat.not_le.mpr passed)]
      · intro among
        rcases List.mem_cons.mp among with same | among
        · omega
        · have := later _ among
          omega

/-- What starts further on than a character starts behind it. -/
theorem StartsBehind.further {source before more cs : List Char} {c : Char} {o : Nat} (hs : source = before ++ c :: cs)
    (h : StartsBehind source o (before ++ more)) (other : o ≠ byteLength before) :
    ∃ more, StartsBehind source o ((before ++ [c]) ++ more) := by
  obtain ⟨d, rest, eq, bytes⟩ := h
  cases more with
  | nil =>
    rw [List.append_nil] at bytes
    exact absurd bytes.symm other
  | cons e more =>
    obtain rfl : c = e := by
      rw [hs, List.append_assoc] at eq
      exact (List.cons.inj (List.append_cancel_left eq)).1
    have split : before ++ c :: more = (before ++ [c]) ++ more := List.append_cons ..
    exact ⟨more, d, rest, split ▸ eq, split ▸ bytes⟩

/-- The location of an offset at which a character of a source starts. -/
def Locates (source : List Char) (offset : Nat) (l : Location) : Prop :=
  ∃ before, StartsBehind source offset before ∧ l = locationBehind before

/-- The locations found up to a place are followed by those of the offsets at which a character starts further on. -/
theorem locationsFrom_ascending {source before cs : List Char} (acc : List Location) {os : List Nat}
    (hs : source = before ++ cs) (ascend : os.Pairwise (· < ·))
    (starts : ∀ o ∈ os, ∃ more, StartsBehind source o (before ++ more)) :
    ∃ ls, locationsFrom (before.foldl Position.next .start) acc os cs = acc.reverse ++ ls ∧
      List.Forall₂ (Locates source) os ls := by
  induction cs generalizing before acc os with
  | nil =>
    cases os with
    | nil => exact ⟨[], by simp [locationsFrom], .nil⟩
    | cons o os =>
      obtain ⟨more, c, rest, eq, -⟩ := starts o List.mem_cons_self
      have := congrArg List.length (hs.symm.trans eq)
      simp at this
  | cons c cs ih =>
    have stands : (before.foldl Position.next .start).location = locationBehind before := by rw [foldl_next]
    have ahead : ∀ o ∈ os, (before.foldl Position.next .start).location.offset ≤ o := by
      intro o ho
      obtain ⟨more, _, _, _, rfl⟩ := starts o ho
      rw [stands, byteLength_append]
      exact Nat.le_add_right _ _
    have hs' : source = (before ++ [c]) ++ cs := by rw [hs, List.append_assoc, List.singleton_append]
    have next : Position.next (before.foldl Position.next .start) c = (before ++ [c]).foldl Position.next .start := by
      rw [List.foldl_append]
      rfl
    -- Behind the character the pass goes on with the offsets that are left, none of which is where it stood.
    have goesOn (acc : List Location) {o : Nat} {os' : List Nat} (sub : o :: os' ⊆ os)
        (ascend : (o :: os').Pairwise (· < ·)) (other : byteLength before ∉ o :: os') :
        ∃ ls, locationsFrom (Position.next (before.foldl Position.next .start) c) acc (o :: os') cs =
          acc.reverse ++ ls ∧ List.Forall₂ (Locates source) (o :: os') ls := by
      rw [next]
      refine ih acc hs' ascend fun o' ho => ?_
      obtain ⟨more, behind⟩ := starts o' (sub ho)
      exact behind.further hs fun same => other (same ▸ ho)
    rcases reached_ascending acc ascend ahead with ⟨none, other⟩ | ⟨rest, rfl, one⟩
    · rw [stands] at other
      cases os with
      | nil => exact ⟨[], by simp [locationsFrom, none], .nil⟩
      | cons o os =>
        rw [locationsFrom, none]
        exact goesOn acc (List.Subset.refl _) ascend other
    · rw [stands] at one ascend goesOn ⊢
      obtain ⟨later, ascend⟩ := List.pairwise_cons.mp ascend
      have found : Locates source (locationBehind before).offset (locationBehind before) :=
        ⟨before, ⟨c, cs, hs, rfl⟩, rfl⟩
      cases rest with
      | nil =>
        refine ⟨[locationBehind before], ?_, .cons found .nil⟩
        rw [locationsFrom, one]
        simp
      | cons o os =>
        have other : byteLength before ∉ o :: os := fun among => Nat.lt_irrefl _ (later _ among)
        obtain ⟨ls, eq, located⟩ := goesOn (locationBehind before :: acc) (List.subset_cons_self _ _) ascend other
        refine ⟨locationBehind before :: ls, ?_, .cons found located⟩
        rw [locationsFrom, one]
        dsimp only
        rw [eq, List.reverse_cons, List.append_assoc]
        rfl

theorem locates_locations {source : List Char} {os : List Nat} (ascend : os.Pairwise (· < ·))
    (starts : ∀ o ∈ os, ∃ before, StartsBehind source o before) :
    List.Forall₂ (Locates source) os (locations source os) := by
  have split : source = [] ++ source := rfl
  obtain ⟨ls, eq, located⟩ := locationsFrom_ascending [] split ascend starts
  rw [locations, show Position.start = ([] : List Char).foldl Position.next .start from rfl, eq]
  exact located

/-! ### Start tags -/

/-- Line and column of a location come before those of another. -/
def Precedes (l m : Location) : Prop := l.line < m.line ∨ l.line = m.line ∧ l.column < m.column

/-- Behind a character that ends no line, a location comes after the one before the character. -/
theorem precedes_append {before more : List Char} {c : Char} (h : isLineEnd c = false) :
    Precedes (locationBehind before) (locationBehind (before ++ c :: more)) := by
  have head : (c :: more).head? ≠ some '\n' := by
    rintro same
    obtain rfl := Option.some.inj same
    cases h
  have lines : lineEnds (before ++ c :: more) = lineEnds before + lineEnds (c :: more) := lineEnds_append fun _ => head
  rcases Nat.eq_zero_or_pos (lineEnds (c :: more)) with none | some
  · refine .inr ⟨?_, ?_⟩
    · simp only [locationBehind, lines, none, Nat.add_zero]
    · have line : lastLine (before ++ c :: more) = _ := lastLine_append (lineEnds_eq_zero_iff.mp none)
      have wide := unitWidth_pos c
      simp only [locationBehind, line, size_ofChars_append, size_ofChars_cons]
      omega
  · refine .inl ?_
    simp only [locationBehind, lines]
    omega

/-- Of two beginnings of a source the longer one goes on where the shorter one ends. -/
theorem exists_append_of_le {source before rest after rest' : List Char} (hb : source = before ++ rest)
    (ha : source = after ++ rest') (le : byteLength before ≤ byteLength after) :
    ∃ more, after = before ++ more ∧ rest = more ++ rest' := by
  rcases List.append_eq_append_iff.mp (hb.symm.trans ha) with both | ⟨more, rfl, rfl⟩
  · exact both
  · have none : more = [] := by
      by_contra some
      have := byteLength_pos some
      rw [byteLength_append] at le
      omega
    subst none
    exact ⟨[], by simp, rfl⟩

theorem starts_of_mem_tagsOf {source : String} {o : Nat}
    (h : o ∈ (tagsOf 0 (segments source.toList)).map (·.2)) :
    ∃ before rest, source.toList = before ++ '<' :: rest ∧ byteLength before = o := by
  obtain ⟨⟨name, o'⟩, mem, rfl⟩ := List.mem_map.mp h
  obtain ⟨before, rest, eq, ho, written, c, rest', rfl, -⟩ := opens_of_mem_tagsOf mem
  exact ⟨before, _, eq, (ho.trans (Nat.zero_add _)).symm⟩

theorem ascending_tagsOf (source : String) :
    ((tagsOf 0 (segments source.toList)).map (·.2)).Pairwise (· < ·) :=
  List.pairwise_map.mpr (pairwise_tagsOf 0 source.toList.length source.toList)

/-- Every offset of a reported tag has its location. -/
theorem locates_tags (source : String) :
    let os := (tagsOf 0 (segments source.toList)).map (·.2)
    List.Forall₂ (Locates source.toList) os (locations source.toList os) := by
  refine locates_locations (ascending_tagsOf source) fun o ho => ?_
  obtain ⟨before, rest, eq, bytes⟩ := starts_of_mem_tagsOf ho
  exact ⟨before, '<', rest, eq, bytes⟩

/-- No reported tag is lost among the start tags. -/
theorem startTags_eq_reported (source : String) :
    (startTags source).map (fun t => (t.name, t.location.offset)) = tagsOf 0 (segments source.toList) := by
  refine (startTags_reported source).eq_of_length ?_
  have length := (locates_tags source).length_eq
  rw [List.length_map] at length
  simp [startTags, ← length]

/-- A start tag has the location behind the text before its `<`. -/
theorem location_of_mem_startTags {source : String} {t : StartTag} (h : t ∈ startTags source) :
    ∃ before rest, source.toList = before ++ '<' :: rest ∧ t.location = locationBehind before := by
  obtain ⟨⟨⟨name, o⟩, l⟩, zipped, rfl⟩ := List.mem_map.mp h
  have paired := List.mem_map_of_mem (f := Prod.map (·.2) id) zipped
  rw [← List.zip_map_left] at paired
  obtain ⟨before, ⟨c, rest, eq, bytes⟩, located⟩ := List.forall₂_zip (locates_tags source) paired
  obtain ⟨before', rest', eq', bytes'⟩ := starts_of_mem_tagsOf (List.of_mem_zip paired).1
  obtain ⟨more, hb, hr⟩ := exists_append_of_le eq' eq (Nat.le_of_eq (bytes'.trans bytes.symm))
  have none : more = [] := by
    by_contra some
    have := byteLength_pos some
    have : byteLength before = byteLength before' := bytes.trans bytes'.symm
    rw [hb, byteLength_append] at this
    omega
  rw [none, List.append_nil] at hb
  exact ⟨before', rest', eq', hb ▸ located⟩

/-- Every offset of ascending offsets at which characters start has one location, in order: its line is the number of
lines that end before it, and its column counts the sixteen-bit units behind the last line end. No reported tag is lost
among the start tags, and the line and column of one precede those of the next. -/
theorem locations_lines (source : String) :
    (∀ os : List Nat, os.Pairwise (· < ·) → (∀ o ∈ os, ∃ before, StartsBehind source.toList o before) →
      List.Forall₂ (Locates source.toList) os (locations source.toList os) ∧
        (locations source.toList os).map (·.offset) = os) ∧
    (startTags source).map (fun t => (t.name, t.location.offset)) = tagsOf 0 (segments source.toList) ∧
    ((startTags source).map (·.location)).Pairwise Precedes := by
  refine ⟨fun os ascend starts => ?_, startTags_eq_reported source, ?_⟩
  · have located := locates_locations ascend starts
    have length : (locations source.toList os).length = os.length := located.length_eq.symm
    exact ⟨located, (locations_offsets _ os).eq_of_length (by rw [List.length_map, length])⟩
  · have offsets : ((startTags source).map (·.location)).Pairwise fun l m => l.offset < m.offset := by
      have ascend := pairwise_tagsOf 0 source.toList.length source.toList
      rw [← segments, ← startTags_eq_reported, List.pairwise_map] at ascend
      exact List.pairwise_map.mpr ascend
    refine offsets.imp_of_mem fun {l m} hl hm lt => ?_
    obtain ⟨s, hs, rfl⟩ := List.mem_map.mp hl
    obtain ⟨t, ht, rfl⟩ := List.mem_map.mp hm
    obtain ⟨before, rest, eq, hl⟩ := location_of_mem_startTags hs
    obtain ⟨after, rest', eq', hm⟩ := location_of_mem_startTags ht
    rw [hl, hm] at lt ⊢
    obtain ⟨more, rfl, hr⟩ := exists_append_of_le eq eq' (Nat.le_of_lt lt)
    cases more with
    | nil =>
      rw [List.append_nil] at lt
      exact absurd lt (Nat.lt_irrefl _)
    | cons c more =>
      obtain ⟨rfl, -⟩ := List.cons.inj hr
      exact precedes_append rfl

/-- A source with an astral character, both line ends together, and each of them alone. -/
def mixedSource : String := "<b>😀\r\n<i>\r\n\r<u>\n<p>"

theorem locations_lines_mixedSource :
    ([3, 7, 8, 9, 15, 19] : List Nat).Pairwise (· < ·) ∧
    (∀ o ∈ [3, 7, 8, 9, 15, 19], ∃ before, StartsBehind mixedSource.toList o before) ∧
    List.Forall₂ (Locates mixedSource.toList) [3, 7, 8, 9, 15, 19]
      [⟨0, 4, 3⟩, ⟨0, 6, 7⟩, ⟨1, 1, 8⟩, ⟨1, 1, 9⟩, ⟨3, 1, 15⟩, ⟨4, 1, 19⟩] := by
  have ascend : ([3, 7, 8, 9, 15, 19] : List Nat).Pairwise (· < ·) := by decide
  have starts : ∀ o ∈ [3, 7, 8, 9, 15, 19], ∃ before, StartsBehind mixedSource.toList o before := by
    simp only [List.forall_mem_cons]
    refine ⟨⟨"<b>".toList, '😀', _, rfl, rfl⟩, ⟨"<b>😀".toList, '\r', _, rfl, rfl⟩, ⟨"<b>😀\r".toList, '\n', _, rfl, rfl⟩,
      ⟨"<b>😀\r\n".toList, '<', _, rfl, rfl⟩, ⟨"<b>😀\r\n<i>\r\n\r".toList, '<', _, rfl, rfl⟩,
      ⟨"<b>😀\r\n<i>\r\n\r<u>\n".toList, '<', _, rfl, rfl⟩, nofun⟩
  have found : locations mixedSource.toList [3, 7, 8, 9, 15, 19] =
      [⟨0, 4, 3⟩, ⟨0, 6, 7⟩, ⟨1, 1, 8⟩, ⟨1, 1, 9⟩, ⟨3, 1, 15⟩, ⟨4, 1, 19⟩] := by decide +kernel
  exact ⟨ascend, starts, found ▸ ((locations_lines mixedSource).1 _ ascend starts).1⟩

end Pagewalk.Source
