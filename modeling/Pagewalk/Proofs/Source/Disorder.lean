import Mathlib.Data.List.DropRight
import Pagewalk.Proofs.Source.Assignments

/-!
# Bounded disorder

Pairing keeps a cursor: all tags before it are taken. A tag that an element takes at once moves the cursor past it, with
all the tags that the element passed over, and a tag that an element looks ahead for stands less than a reach behind the
cursor. No later element finds a tag before the cursor, so a tag can be found too early only by looking ahead, and only
by less than a reach.
-/

namespace Pagewalk.Source

/-- Where an element finds its tag: the place of the tag among all tags, and whether the element takes it at once or looks
ahead for it. -/
structure Find where
  place : Nat
  atOnce : Bool
  deriving DecidableEq, Repr

/-- A tag that is not taken and produces the element. -/
def offers (e : String) : Option StartTag → Bool
  | none => false
  | some t => produces t.name e

/-- The number of tags in front that are taken. -/
def cursor (tags : List (Option StartTag)) : Nat := (tags.takeWhile Option.isNone).length

/-- An element finds the first tag left that produces it: at once if it may pass over all tags in front, and otherwise if
the element cannot do without a tag and this one is less than a reach behind the cursor. -/
def find? (e : String) (tags : List (Option StartTag)) : Option Find :=
  (tags.findIdx? (offers e)).bind fun i =>
    if (tags.take i).all (isPassed e) then some ⟨i, true⟩
    else if e ∈ impliedNames ∨ cursor tags + reach ≤ i then none
    else some ⟨i, false⟩

/-- The tags that an element leaves, with gaps for those that are taken: all through a tag that it takes at once, and
only the tag itself where it looks ahead. -/
def leave (tags : List (Option StartTag)) : Option Find → List (Option StartTag)
  | none => tags
  | some ⟨i, true⟩ => List.replicate (i + 1) none ++ tags.drop (i + 1)
  | some ⟨i, false⟩ => tags.set i none

/-- Where elements find their tags, one after the other. -/
def finds : List String → List (Option StartTag) → List (Option Find)
  | [], _ => []
  | e :: es, tags => find? e tags :: finds es (leave tags (find? e tags))

section Finding
variable {e : String} {es : List String} {f : Find} {f? : Option Find} {t : StartTag}
  {tags front back : List (Option StartTag)} {i n : Nat}

/-! ### The tag that is found -/

theorem exists_of_offers {t? : Option StartTag} (h : offers e t? = true) : ∃ t, t? = some t ∧ produces t.name e = true := by
  cases t? with
  | none => cases h
  | some t => exact ⟨t, rfl, h⟩

theorem exists_of_findIdx? (h : tags.findIdx? (offers e) = some i) :
    ∃ front t back, tags = front ++ some t :: back ∧ front.length = i ∧ produces t.name e = true ∧
      ∀ x ∈ front, offers e x = false := by
  obtain ⟨hi, here, before⟩ := List.findIdx?_eq_some_iff_getElem.mp h
  obtain ⟨t, ht, hp⟩ := exists_of_offers here
  refine ⟨tags.take i, t, tags.drop (i + 1), ?_, by simp; omega, hp, ?_⟩
  · rw [← ht, List.getElem_cons_drop, List.take_append_drop]
  · intro x hx
    obtain ⟨j, hj, rfl⟩ := List.mem_take_iff_getElem.mp hx
    simpa using before j (by omega)

/-- What an element finds is the first tag that produces it, and the reason why it may take it. -/
theorem find?_eq_some (h : find? e tags = some f) :
    ∃ front t back, tags = front ++ some t :: back ∧ front.length = f.place ∧ produces t.name e = true ∧
      (∀ x ∈ front, offers e x = false) ∧
      (f.atOnce = true ∧ (∀ x ∈ front, isPassed e x = true) ∨
        f.atOnce = false ∧ (¬ ∀ x ∈ front, isPassed e x = true) ∧ e ∉ impliedNames ∧ f.place < cursor tags + reach) := by
  obtain ⟨i, hi, hf⟩ := Option.bind_eq_some_iff.mp h
  obtain ⟨front, t, back, rfl, rfl, hp, first⟩ := exists_of_findIdx? hi
  refine ⟨front, t, back, rfl, ?_⟩
  rw [List.take_left] at hf
  split at hf
  · rename_i pass
    obtain rfl := Option.some.inj hf
    exact ⟨rfl, hp, first, .inl ⟨rfl, by simpa using pass⟩⟩
  · rename_i stuck
    split at hf
    · cases hf
    · rename_i may
      obtain rfl := Option.some.inj hf
      simp only [not_or, Nat.not_le] at may
      exact ⟨rfl, hp, first, .inr ⟨rfl, by simpa using stuck, may⟩⟩

theorem find?_eq_none (h : find? e tags = none) :
    (∀ x ∈ tags, offers e x = false) ∨
      ∃ front t back, tags = front ++ some t :: back ∧ produces t.name e = true ∧ (∀ x ∈ front, offers e x = false) ∧
        (¬ ∀ x ∈ front, isPassed e x = true) ∧ (e ∈ impliedNames ∨ cursor tags + reach ≤ front.length) := by
  rcases Option.bind_eq_none_iff.mp h with h
  cases hi : tags.findIdx? (offers e) with
  | none => exact .inl (by simpa using List.findIdx?_eq_none_iff.mp hi)
  | some i =>
    obtain ⟨front, t, back, rfl, rfl, hp, first⟩ := exists_of_findIdx? hi
    have hf := h _ hi
    rw [List.take_left] at hf
    split at hf
    · cases hf
    · rename_i stuck
      split at hf
      · rename_i may
        exact .inr ⟨front, t, back, rfl, hp, first, by simpa using stuck, may⟩
      · cases hf

/-! ### The tag that is taken -/

theorem takeAhead_eq_none (h : ∀ x ∈ tags, offers e x = false) : takeAhead e n tags = none := by
  induction tags generalizing n with
  | nil => cases n <;> rfl
  | cons x tags ih =>
    rw [List.forall_mem_cons] at h
    have ahead := fun n => ih (n := n) h.2
    cases n with
    | zero => rfl
    | succ n =>
      cases x with
      | none => simp [takeAhead, ahead]
      | some u =>
        have hu : produces u.name e = false := h.1
        simp [takeAhead, hu, ahead]

/-- An element does not take at once what stands behind a tag that it may not pass over. -/
theorem other_of_stuck (first : ∀ x ∈ front, offers e x = false) (stuck : ¬ ∀ x ∈ front, isPassed e x = true) :
    ∀ t rest, (front ++ back).dropWhile (isPassed e) = some t :: rest → produces t.name e = false := by
  induction front with
  | nil => exact absurd (List.forall_mem_nil _) stuck
  | cons x front ih =>
    rw [List.forall_mem_cons] at first stuck
    intro t rest h
    by_cases hx : isPassed e x = true
    · rw [List.cons_append, List.dropWhile_cons_of_pos hx] at h
      exact ih first.2 (fun all => stuck ⟨hx, all⟩) t rest h
    · rw [List.cons_append, List.dropWhile_cons_of_neg hx] at h
      obtain ⟨rfl, -⟩ := List.cons.inj h
      exact first.1

theorem dropWhile_append_some (front back : List (Option StartTag)) (t : StartTag) :
    (front ++ some t :: back).dropWhile Option.isNone = front.dropWhile Option.isNone ++ some t :: back := by
  induction front with
  | nil => rfl
  | cons x front ih => cases x <;> simp [ih]

theorem dropWhile_dropWhile_append (front back : List (Option StartTag)) :
    (front.dropWhile Option.isNone ++ back).dropWhile Option.isNone = (front ++ back).dropWhile Option.isNone := by
  induction front with
  | nil => rfl
  | cons x front ih => cases x <;> simp [ih]

/-- The tags in front of a tag that is left are the taken ones before the cursor and those behind it. -/
theorem length_eq_cursor_add (front back : List (Option StartTag)) (t : StartTag) :
    front.length = cursor (front ++ some t :: back) + (front.dropWhile Option.isNone).length := by
  induction front with
  | nil => rfl
  | cons x front ih =>
    cases x with
    | none =>
      have next : ∀ rest, cursor (none :: rest) = cursor rest + 1 := fun rest => by simp [cursor]
      rw [List.cons_append, next, List.dropWhile_cons_of_pos rfl, List.length_cons, ih]
      omega
    | some u => simp [cursor]

/-- Pairing goes on as an element finds its tag: with the location of this tag, and with the tags that it leaves, but for
gaps in front. -/
theorem pairNext_eq_find? (e : String) (tags : List (Option StartTag)) :
    (pairNext e tags).1 = (find? e tags).bind (fun f => tags[f.place]?.join.map (·.location)) ∧
      (pairNext e tags).2.dropWhile Option.isNone = (leave tags (find? e tags)).dropWhile Option.isNone := by
  cases hf : find? e tags with
  | none =>
    have without : pairNext e tags = (none, tags.dropWhile Option.isNone) := by
      rcases find?_eq_none hf with none_offers | ⟨front, t, back, rfl, hp, first, stuck, may⟩
      · have other : ∀ t rest, tags.dropWhile (isPassed e) = some t :: rest → produces t.name e = false :=
          fun t rest h => none_offers (some t) ((List.dropWhile_sublist _).subset (h ▸ List.mem_cons_self))
        have ahead : takeAhead e reach (tags.dropWhile Option.isNone) = none :=
          takeAhead_eq_none fun x hx => none_offers x ((List.dropWhile_sublist _).subset hx)
        rw [pairNext_of_stuck other, orAhead, ahead]
        split <;> rfl
      · have length := length_eq_cursor_add front back t
        have first' : ∀ x ∈ front.dropWhile Option.isNone, offers e x = false :=
          fun x hx => first x ((List.dropWhile_sublist _).subset hx)
        rw [pairNext_of_stuck (other_of_stuck first stuck), orAhead, dropWhile_append_some]
        rcases may with implied | far
        · rw [if_pos (List.contains_iff_mem.mpr implied)]
        · have ahead : ¬ (front.dropWhile Option.isNone).length < reach := by omega
          rw [takeAhead_append hp (fun u => first' (some u)), if_neg ahead, ite_self]
    rw [without]
    exact ⟨rfl, List.dropWhile_idempotent ..⟩
  | some f =>
    obtain ⟨front, t, back, rfl, place, hp, first, ⟨at_once, pass⟩ | ⟨ahead, stuck, needed, near⟩⟩ := find?_eq_some hf
    · obtain ⟨i, b⟩ := f
      obtain rfl : front.length = i := place
      obtain rfl : b = true := at_once
      rw [pairNext_of_passed pass hp]
      simp [leave]
    -- The tag lies ahead, within reach of an element that cannot be implied.
    · obtain ⟨i, b⟩ := f
      obtain rfl : front.length = i := place
      obtain rfl : b = false := ahead
      have length := length_eq_cursor_add front back t
      have near : front.length < cursor (front ++ some t :: back) + reach := near
      have first' : ∀ x ∈ front.dropWhile Option.isNone, offers e x = false :=
        fun x hx => first x ((List.dropWhile_sublist _).subset hx)
      rw [pairNext_of_stuck (other_of_stuck first stuck), orAhead, if_neg (by simpa using needed), dropWhile_append_some,
        takeAhead_append hp (fun u => first' (some u)), if_pos (by omega)]
      simp [leave, dropWhile_dropWhile_append]

/-! ### Places among all tags -/

/-- Gaps in front do not matter to a pairing. -/
theorem pair_congr {other : List (Option StartTag)} (h : tags.dropWhile Option.isNone = other.dropWhile Option.isNone) :
    pair es tags = pair es other := by
  cases es with
  | nil => rfl
  | cons e es =>
    have same : pairNext e tags = pairNext e other := by rw [pairNext, pairNext, h]
    rw [pair_cons, pair_cons, same]

/-- The tags that are left are some of those that there were, each in its place. -/
theorem getElem?_of_leave (h : (leave tags f?)[i]? = some (some t)) : tags[i]? = some (some t) := by
  rcases f? with _ | ⟨n, _ | _⟩
  · exact h
  · rw [leave, List.getElem?_set] at h
    split at h
    · split at h <;> simp at h
    · exact h
  · rw [leave, List.getElem?_append, List.length_replicate] at h
    split at h
    · rw [List.getElem?_replicate_of_lt ‹_›] at h
      cases Option.some.inj h
    · rw [List.getElem?_drop] at h
      rwa [Nat.add_sub_cancel' (by omega)] at h

theorem getElem?_find? (h : find? e tags = some f) : ∃ t, tags[f.place]? = some (some t) := by
  obtain ⟨front, t, back, rfl, place, -⟩ := find?_eq_some h
  exact ⟨t, by simp [← place]⟩

/-- Pairing gives each element the location of the tag that it finds, of all tags that there were. -/
theorem pair_eq_finds {all : List (Option StartTag)}
    (same : ∀ (i : Nat) (t : StartTag), tags[i]? = some (some t) → all[i]? = some (some t)) :
    pair es tags = (finds es tags).map (·.bind fun f => all[f.place]?.join.map (·.location)) := by
  induction es generalizing tags with
  | nil => rfl
  | cons e es ih =>
    obtain ⟨first, rest⟩ := pairNext_eq_find? e tags
    have first' : (pairNext e tags).1 = (find? e tags).bind (fun f => all[f.place]?.join.map (·.location)) := by
      rw [first]
      refine Option.bind_congr fun f hf => ?_
      obtain ⟨t, ht⟩ := getElem?_find? hf
      rw [ht, same _ t ht]
    rw [pair_cons, first', pair_congr rest, ih fun i t h => same i t (getElem?_of_leave h)]
    rfl

/-! ### The cursor -/

/-- All tags before the cursor are taken. -/
theorem le_cursor_iff : n ≤ cursor tags ↔ ∀ i < n, tags[i]? = some none := by
  induction tags generalizing n with
  | nil =>
    cases n with
    | zero => simp
    | succ n =>
      refine ⟨fun h => absurd h (Nat.not_succ_le_zero n), fun h => ?_⟩
      cases h 0 n.succ_pos
  | cons x tags ih =>
    cases n with
    | zero => simp
    | succ n =>
      rw [Nat.forall_lt_succ_left]
      cases x with
      | none => simpa [cursor] using ih (n := n)
      | some t => simp [cursor]

theorem cursor_le_of_getElem? (h : tags[i]? = some (some t)) : cursor tags ≤ i := by
  refine Nat.le_of_not_lt fun before => ?_
  rw [le_cursor_iff.mp (Nat.le_refl _) i before] at h
  cases Option.some.inj h

/-- The cursor never moves back. -/
theorem cursor_le_leave : cursor tags ≤ cursor (leave tags f?) := by
  refine le_cursor_iff.mpr fun i hi => ?_
  have taken := le_cursor_iff.mp (Nat.le_refl _) i hi
  rcases f? with _ | ⟨n, _ | _⟩
  · exact taken
  · have := (List.getElem?_eq_some_iff.mp taken).1
    rw [leave, List.getElem?_set]
    split <;> simp_all
  · rw [leave, List.getElem?_append, List.length_replicate]
    split
    · exact List.getElem?_replicate_of_lt ‹_›
    · rwa [List.getElem?_drop, Nat.add_sub_cancel' (by omega)]

/-- A tag that is taken at once moves the cursor past it. -/
theorem lt_cursor_leave (h : f.atOnce = true) : f.place < cursor (leave tags (some f)) := by
  obtain ⟨n, b⟩ := f
  obtain rfl : b = true := h
  refine le_cursor_iff.mpr fun i hi => ?_
  rw [leave, List.getElem?_append_left (by simpa using hi)]
  exact List.getElem?_replicate_of_lt hi

/-- No element finds a tag before the cursor. -/
theorem cursor_le_of_mem_finds (h : some f ∈ finds es tags) : cursor tags ≤ f.place := by
  induction es generalizing tags with
  | nil => cases h
  | cons e es ih =>
    rcases List.mem_cons.mp h with h | h
    · obtain ⟨t, ht⟩ := getElem?_find? h.symm
      exact cursor_le_of_getElem? ht
    · exact Nat.le_trans cursor_le_leave (ih h)

/-- A tag that is found at once comes before all that are found later, and one that an element looks ahead for comes less
than a reach behind any of them. -/
theorem finds_later {j : Nat} {a b : Find} (later : i < j) (he : es[i]? = some e)
    (ha : (finds es tags)[i]? = some (some a)) (hb : (finds es tags)[j]? = some (some b)) :
    a.atOnce = true ∧ a.place < b.place ∨
      a.atOnce = false ∧ a.place < b.place + reach ∧ e ∉ impliedNames := by
  induction es generalizing tags i j with
  | nil => cases he
  | cons e' es ih =>
    obtain ⟨j, rfl⟩ := Nat.exists_eq_add_one_of_ne_zero (Nat.ne_zero_of_lt later)
    cases i with
    | succ i => exact ih (Nat.lt_of_succ_lt_succ later) he ha hb
    | zero =>
      obtain rfl := Option.some.inj he
      have ha : find? e' tags = some a := Option.some.inj ha
      have behind : cursor (leave tags (find? e' tags)) ≤ b.place := cursor_le_of_mem_finds (List.mem_of_getElem? hb)
      rw [ha] at behind
      obtain ⟨-, -, -, -, -, -, -, ⟨at_once, -⟩ | ⟨ahead, -, needed, near⟩⟩ := find?_eq_some ha
      · exact .inl ⟨at_once, Nat.lt_of_lt_of_le (lt_cursor_leave at_once) behind⟩
      · have := Nat.le_trans cursor_le_leave behind
        exact .inr ⟨ahead, by omega, needed⟩

end Finding

/-- Every element is paired with the tag that it finds. Where the tag of an element comes after the tag of a later one, it
comes at most fifteen tags after it, and the name of the element is not one of those that are implied; and behind an
element that took its tag at once, no later one is paired with an earlier tag. -/
theorem finds_disorder (es : List String) (tags : List StartTag) :
    let found := finds es (tags.map some)
    pair es (tags.map some) = found.map (·.bind fun f => tags[f.place]?.map (·.location)) ∧
      (∀ (source : String) (d : Document), names d = es → startTags source = tags →
        locate source d = rows d.elements (found.map (·.bind fun f => tags[f.place]?.map (·.location)))) ∧
      ∀ (i j : Nat) (e : String) (a b : Find), i < j → es[i]? = some e → found[i]? = some (some a) →
        found[j]? = some (some b) →
          (b.place < a.place → a.place ≤ b.place + 15 ∧ e ∉ impliedNames) ∧ (a.atOnce = true → a.place < b.place) := by
  intro found
  have paired : pair es (tags.map some) = found.map (·.bind fun f => tags[f.place]?.map (·.location)) := by
    have place (i : Nat) : (tags.map some)[i]?.join = tags[i]? := by
      rw [List.getElem?_map]
      cases tags[i]? <;> rfl
    rw [pair_eq_finds fun _ _ h => h]
    simp only [place, found]
  refine ⟨paired, ?_, ?_⟩
  · rintro source d rfl rfl
    rw [locate_eq_rows, ← paired]
    rfl
  · intro i j e a b later he ha hb
    rcases finds_later later he ha hb with ⟨at_once, before⟩ | ⟨ahead, near, needed⟩
    · exact ⟨fun after => absurd after (Nat.not_lt.mpr (Nat.le_of_lt before)), fun _ => before⟩
    · exact ⟨fun _ => ⟨Nat.le_of_lt_succ near, needed⟩, fun at_once => by simp [ahead] at at_once⟩

/-- A table with a `div` in it that the reading puts in front of the table. -/
def fosteredPage : String := "<table><div>x</div><tr><td>1</td></tr></table><p>after</p>"

/-- The `div` finds its tag by looking ahead over the tag of the table, which is found at once after it. -/
theorem finds_disorder_fosteredPage :
    let es := names (Document.ofText fosteredPage)
    let tags := startTags fosteredPage
    es = ["html", "head", "body", "div", "table", "tbody", "tr", "td", "p"] ∧
      finds es (tags.map some) = [none, none, none, some ⟨1, false⟩, some ⟨0, true⟩, none, some ⟨2, true⟩,
        some ⟨3, true⟩, some ⟨4, true⟩] ∧ (1 ≤ 0 + 15 ∧ "div" ∉ impliedNames) ∧ 0 < 2 := by
  intro es tags
  have elements : es = ["html", "head", "body", "div", "table", "tbody", "tr", "td", "p"] := by decide +kernel
  have found : finds es (tags.map some) = [none, none, none, some ⟨1, false⟩, some ⟨0, true⟩, none, some ⟨2, true⟩,
      some ⟨3, true⟩, some ⟨4, true⟩] := by
    rw [elements]
    decide +kernel
  have later := (finds_disorder es tags).2.2
  rw [found, elements] at later
  exact ⟨elements, found, (later 3 4 "div" _ _ (by decide) rfl rfl rfl).1 (by decide),
    (later 4 6 "table" _ _ (by decide) rfl rfl rfl).2 rfl⟩

end Pagewalk.Source
