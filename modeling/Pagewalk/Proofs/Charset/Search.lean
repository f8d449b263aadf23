import Pagewalk.Proofs.Charset.Labels
import Pagewalk.Proofs.Text.Slices

/-!
# The search for a label by offsets

A search by offsets looks for the bytes of `charset=` in a copy of the text with its capitals made small, and cuts the label
out of the text itself, at the offset that was found in the copy. Where no label can be read it goes on behind the word. Every
offset it uses is a boundary of both texts, so that no cut fails, and it finds the label that `labelInPage?` finds.
-/

namespace Pagewalk.Charset

open Text Text.Utf8

/-- The word in front of a label. -/
def mark : List Char := "charset=".toList

/-- The label at the start of a text, cut out of it by offsets. -/
def sliceLabel (input : List Char) : Except SliceFault (Option String) :=
  match trimStart input with
  | [] => .ok none
  | first :: after =>
    if first == '\"' || first == '\'' then do
      let (_, rest) ← cutAt first.utf8Size (first :: after)
      match offsetOf? (· == first) rest with
      | none => pure none
      | some stop =>
        let (inside, _) ← cutAt stop rest
        pure (nonempty? (trimEnd (trimStart inside)))
    else do
      let stop := (offsetOf? endsLabel (first :: after)).getD (octets (first :: after)).length
      let (label, _) ← cutAt stop (first :: after)
      pure (nonempty? label)

/-- The search from an offset on, in a text and its copy in small letters. -/
def searchFrom (text lowered : List Char) (start : Nat) : Except SliceFault (Option String) :=
  match _cut : cutAt start lowered with
  | .error fault => .error fault
  | .ok (_, left) =>
    match _found : offsetOfBytes? (octets mark) (octets left) with
    | none => .ok none
    | some relative => do
      let behind := start + relative + (octets mark).length
      let (_, input) ← cutAt behind text
      match ← sliceLabel input with
      | some label => pure (some label)
      | none => searchFrom text lowered behind
termination_by (octets lowered).length - start
decreasing_by
  -- The word that was found lies behind the start and within the copy.
  obtain ⟨rfl, rfl⟩ := cutAt_eq_ok_iff.mp _cut
  have within := (offsetOfBytes?_eq_some_iff.mp _found).1.length_le
  have word : (octets mark).length = 8 := by decide
  rw [List.length_drop] at within
  rw [octets_append, List.length_append]
  omega

/-- The text in which the label of a page is looked for. -/
def pageText (body : List UInt8) : List Char := (lossy (body.take pageWindow)).toList

/-- The label that a page gives in its first bytes, by offsets. -/
def searchLabel (body : List UInt8) : Except SliceFault (Option String) :=
  searchFrom (pageText body) ((pageText body).map Char.toLower) 0

/-- A text begins with the word in front of a label, in any case. -/
def Marked (cs : List Char) : Prop := ∃ word rest, cs = word ++ rest ∧ word.map Char.toLower = mark

section Search
variable {c : Char} {cs front rest word text : List Char} {n : Nat} {body : List UInt8} {label : String}

/-! ### Cuts that give a label -/

theorem splitOnce_eq_none_iff : splitOnce c cs = none ↔ c ∉ cs := by
  rw [Option.eq_none_iff_forall_ne_some]
  constructor
  · intro none among
    obtain ⟨a, b, eq, apart⟩ := List.eq_append_cons_of_mem among
    exact none (a, b) (splitOnce_eq_some_iff.mpr ⟨eq, apart⟩)
  · rintro apart ⟨a, b⟩ split
    obtain ⟨rfl, -⟩ := splitOnce_eq_some_iff.mp split
    simp at apart

/-- The cut in front of the first character that ends a label. -/
theorem cutAt_endsLabel (cs : List Char) : cutAt ((offsetOf? endsLabel cs).getD (octets cs).length) cs =
    .ok (cs.takeWhile (!endsLabel ·), cs.dropWhile (!endsLabel ·)) := by
  refine cutAt_eq_ok_iff.mpr ⟨List.takeWhile_append_dropWhile.symm, ?_⟩
  cases found : offsetOf? endsLabel cs with
  | none =>
    rw [List.takeWhile_eq_self_iff.mpr fun c among => by simp [offsetOf?_eq_none_iff.mp found c among]]
    rfl
  | some stop =>
    obtain ⟨front, c, behind, rfl, ends, inside, rfl⟩ := offsetOf?_eq_some_iff.mp found
    rw [← bare_iff.mp ⟨c :: behind, rfl, inside, by simpa using ends⟩]
    rfl

/-- The cuts that give a label are at boundaries, and give the label that is read character by character. -/
theorem sliceLabel_eq (cs : List Char) : sliceLabel cs = .ok (readLabel? cs) := by
  rw [sliceLabel, readLabel?]
  cases trimStart cs with
  | nil => rfl
  | cons first after =>
    simp only
    split
    · have cut : cutAt first.utf8Size (first :: after) = .ok ([first], after) := cutAt_eq_ok_iff.mpr ⟨rfl, by simp⟩
      simp only [cut, bind, Except.bind]
      cases found : offsetOf? (· == first) after with
      | none =>
        have none : splitOnce first after = none :=
          splitOnce_eq_none_iff.mpr fun among => by simpa using offsetOf?_eq_none_iff.mp found first among
        simp only [none]
        rfl
      | some stop =>
        obtain ⟨inside, q, behind, rfl, same, apart, rfl⟩ := offsetOf?_eq_some_iff.mp found
        obtain rfl := beq_iff_eq.mp same
        have once : splitOnce q (inside ++ q :: behind) = some (inside, behind) :=
          splitOnce_eq_some_iff.mpr ⟨rfl, fun among => by simpa using apart q among⟩
        simp only [once, cutAt_append]
        rfl
    · rw [cutAt_endsLabel]
      rfl

/-! ### Where the word stands -/

theorem mark_isAscii : IsAscii mark := by decide

/-- The bytes of the word stand in the copy just where the word stands in the text, in any case. -/
theorem mark_prefix_iff : octets mark <+: (octets (text.map Char.toLower)).drop n ↔
    ∃ front rest, text = front ++ rest ∧ Marked rest ∧ (octets front).length = n := by
  rw [octets_prefix_drop_iff mark_isAscii (by decide)]
  constructor
  · rintro ⟨front, behind, eq, rfl⟩
    obtain ⟨front, marked, rfl, rfl, eq'⟩ := List.map_eq_append_iff.mp eq
    obtain ⟨word, rest, rfl, lowered, rfl⟩ := List.map_eq_append_iff.mp eq'
    exact ⟨front, _, rfl, ⟨word, rest, rfl, lowered⟩, length_octets_toLower.symm⟩
  · rintro ⟨front, _, rfl, ⟨word, rest, rfl, lowered⟩, rfl⟩
    exact ⟨front.map Char.toLower, rest.map Char.toLower, by simp [lowered], length_octets_toLower⟩

theorem labelAt?_eq_bind (cs : List Char) : labelAt? cs = (dropLetters? mark cs).bind readLabel? := rfl

theorem labelAt?_of_not_marked (apart : ¬ Marked cs) : labelAt? cs = none := by
  rw [Option.eq_none_iff_forall_ne_some]
  intro label read
  obtain ⟨word, blanks, after, eq, lowered, -⟩ := labelAt?_eq_some_iff.mp read
  exact apart ⟨word, _, eq, lowered⟩

/-- Places at which the word does not stand are passed over. -/
theorem findLabel?_append (apart : ∀ front' more, front = front' ++ more → more ≠ [] → ¬ Marked (more ++ rest)) :
    findLabel? (front ++ rest) = findLabel? rest := by
  induction front with
  | nil => rfl
  | cons c front ih =>
    have here : labelAt? (c :: (front ++ rest)) = none :=
      labelAt?_of_not_marked (apart [] (c :: front) rfl (List.cons_ne_nil _ _))
    rw [List.cons_append, findLabel?, here]
    exact ih fun front' more eq => apart (c :: front') more (by rw [eq, List.cons_append])

theorem findLabel?_of_not_marked (apart : ∀ front rest, cs = front ++ rest → ¬ Marked rest) : findLabel? cs = none := by
  have skipped : findLabel? (cs ++ []) = findLabel? [] :=
    findLabel?_append fun front more eq _ => by simpa using apart front more eq
  rwa [List.append_nil] at skipped

/-- The word does not begin again before it ends, so that a search may go on behind it. -/
theorem findLabel?_of_word (lowered : word.map Char.toLower = mark) :
    findLabel? (word ++ rest) = (readLabel? rest).or (findLabel? rest) := by
  cases word with
  | nil => cases lowered
  | cons c word =>
    have here : labelAt? (c :: (word ++ rest)) = readLabel? rest := by
      rw [labelAt?_eq_bind, ← List.cons_append, dropLetters?_eq_some_iff.mpr ⟨_, rfl, lowered⟩, Option.bind_some]
    have skipped : findLabel? (word ++ rest) = findLabel? rest := by
      refine findLabel?_append fun front more eq some => ?_
      cases more with
      | nil => exact absurd rfl some
      | cons d more =>
        rintro ⟨again, rest', eq', lowered'⟩
        -- The first letter of the word is none of the others.
        have letter : d.toLower = 'c' := by
          cases again with
          | nil => cases lowered'
          | cons e again =>
            obtain ⟨rfl, -⟩ := List.cons.inj eq'
            exact (List.cons.inj lowered').1
        have among : d.toLower ∈ mark.tail := by
          rw [← lowered, eq]
          simp
        rw [letter] at among
        exact absurd among (by decide)
    rw [List.cons_append, findLabel?, here, skipped]
    cases readLabel? rest <;> rfl

/-! ### The search -/

theorem findLabel?_of_not_found (none : offsetOfBytes? (octets mark) (octets (cs.map Char.toLower)) = .none) :
    findLabel? cs = .none := by
  rw [offsetOfBytes?_eq_none_iff] at none
  refine findLabel?_of_not_marked fun front rest eq marked => ?_
  exact none _ (mark_prefix_iff.mpr ⟨front, rest, eq, marked, rfl⟩)

/-- The offset that is found in the copy splits the text around the word, and the label is behind it or further on. -/
theorem findLabel?_of_found (found : offsetOfBytes? (octets mark) (octets (cs.map Char.toLower)) = some n) :
    ∃ front word rest, cs = front ++ (word ++ rest) ∧ word.map Char.toLower = mark ∧ (octets front).length = n ∧
      findLabel? cs = (readLabel? rest).or (findLabel? rest) := by
  obtain ⟨here, first⟩ := offsetOfBytes?_eq_some_iff.mp found
  obtain ⟨front, _, rfl, ⟨word, rest, rfl, lowered⟩, rfl⟩ := mark_prefix_iff.mp here
  refine ⟨front, word, rest, rfl, lowered, rfl, ?_⟩
  rw [findLabel?_append, findLabel?_of_word lowered]
  rintro front' more rfl longer marked
  have before : 0 < (octets more).length := List.length_pos_iff.mpr (mt octets_eq_nil_iff.mp longer)
  refine first (octets front').length ?_ (mark_prefix_iff.mpr ⟨front', _, List.append_assoc .., marked, rfl⟩)
  rw [octets_append, List.length_append]
  omega

/-- From a boundary on, the search does not fail and finds what is found character by character. -/
theorem searchFrom_eq (front cs : List Char) :
    searchFrom (front ++ cs) ((front ++ cs).map Char.toLower) (octets front).length = .ok (findLabel? cs) := by
  -- The induction is on what is left of the text, which the word makes shorter.
  induction length : cs.length using Nat.strong_induction_on generalizing front cs with
  | _ size ih =>
    have cut : cutAt (octets front).length ((front ++ cs).map Char.toLower) =
        .ok (front.map Char.toLower, cs.map Char.toLower) :=
      cutAt_eq_ok_iff.mpr ⟨List.map_append, length_octets_toLower⟩
    rw [searchFrom]
    split
    · rename_i failed
      rw [cut] at failed
      cases failed
    rename_i done
    obtain ⟨rfl, rfl⟩ := Prod.mk.inj (Except.ok.inj (cut.symm.trans done))
    split
    · rename_i none
      rw [findLabel?_of_not_found none]
    · rename_i n found
      obtain ⟨skipped, word, rest, rfl, lowered, rfl, first⟩ := findLabel?_of_found found
      have word_size : (octets word).length = (octets mark).length := by rw [← length_octets_toLower, lowered]
      have behind : (octets front).length + (octets skipped).length + (octets mark).length =
          (octets (front ++ skipped ++ word)).length := by
        rw [octets_append, octets_append, List.length_append, List.length_append, word_size]
      have text : front ++ (skipped ++ (word ++ rest)) = (front ++ skipped ++ word) ++ rest := by
        simp only [List.append_assoc]
      have shorter : rest.length < size := by
        have letters : word.length = 8 := by rw [← List.length_map Char.toLower, lowered]; rfl
        rw [← length, List.length_append, List.length_append]
        omega
      simp only [behind, text, cutAt_append, sliceLabel_eq, bind, Except.bind, first]
      cases readLabel? rest with
      | some label => rfl
      | none =>
        rw [Option.none_or]
        exact ih _ shorter _ _ rfl

theorem searchLabel_eq (body : List UInt8) : searchLabel body = .ok (labelInPage? body) := by
  have text : labelInPage? body = findLabel? (pageText body) := by
    rw [pageText, lossy, String.toList_ofList]
    rfl
  rw [text]
  exact searchFrom_eq [] (pageText body)

/-- Where the bytes of the word stand in the copy, both ends of it are boundaries of the copy and of the text. -/
theorem isBoundary_of_mark (here : octets mark <+: (octets (text.map Char.toLower)).drop n) :
    (IsBoundary text n ∧ IsBoundary (text.map Char.toLower) n) ∧
      IsBoundary text (n + 8) ∧ IsBoundary (text.map Char.toLower) (n + 8) := by
  rw [isBoundary_toLower, isBoundary_toLower, and_self, and_self]
  obtain ⟨front, _, rfl, ⟨word, rest, rfl, lowered⟩, rfl⟩ := mark_prefix_iff.mp here
  have size : (octets word).length = 8 := by rw [← length_octets_toLower, lowered]; rfl
  exact ⟨⟨front, _, rfl, rfl⟩, ⟨front ++ word, rest, (List.append_assoc ..).symm, by simp [size]⟩⟩

/-- The search by offsets never fails, looks at the first bytes alone, and gives the label at the first place at which one can
be read. -/
theorem searchLabel_spec (body : List UInt8) :
    searchLabel body = .ok (labelInPage? body) ∧
    searchLabel (body.take 8192) = searchLabel body ∧
    (∀ n, octets mark <+: (octets ((pageText body).map Char.toLower)).drop n →
      (IsBoundary (pageText body) n ∧ IsBoundary ((pageText body).map Char.toLower) n) ∧
        IsBoundary (pageText body) (n + 8) ∧ IsBoundary ((pageText body).map Char.toLower) (n + 8)) ∧
    (∀ label, searchLabel body = .ok (some label) ↔ FirstLabel (pageText body) label) ∧
    (searchLabel body = .ok none ↔ ∀ rest, rest <:+ pageText body → ∀ label, ¬ LabelAt rest label) := by
  refine ⟨searchLabel_eq body, ?_, fun n => isBoundary_of_mark, fun label => ?_, ?_⟩
  · rw [searchLabel, searchLabel, pageText, pageText, pageWindow, List.take_take, Nat.min_self]
  · rw [searchLabel_eq, Except.ok.injEq]
    exact labelInPage?_eq_some_iff
  · rw [searchLabel_eq, Except.ok.injEq]
    exact labelInPage?_eq_none_iff

/-- A label that is not closed is passed over, and a character that the window cuts is replaced. -/
example : labelInPage? (Utf8.encode "<a charset='x charset=\"\" CHARSET= koi8-r>" ++ [0xE2, 0x82]) = some "koi8-r" := by rfl

end Search

end Pagewalk.Charset
