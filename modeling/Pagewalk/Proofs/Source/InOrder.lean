import Pagewalk.Proofs.Source.Assignments

/-!
# Documents in order

Some tags are dropped by the reading of markup and some elements are made without a tag. Where the other tags produce the
other elements one for one and in order, each of these elements is located at its own tag, however many tags and elements
stand between: a dropped tag is passed over by the next element that has a tag, and an implied element that no tag
produces takes nothing and leaves the tags as they are.
-/

namespace Pagewalk.Source

/-- A tag that may be dropped and that produces none of the elements. -/
def isLost (es : List String) (t : StartTag) : Bool := droppedNames.contains t.name && es.all fun e => !produces t.name e

/-- An element that may be implied and that none of the tags produces. -/
def isSpare (tags : List StartTag) (e : String) : Bool :=
  impliedNames.contains e && tags.all fun t => !produces t.name e

/-- But for lost tags and spare elements, the tags produce the elements one for one and in order. -/
def InOrder (es : List String) (tags : List StartTag) : Prop :=
  List.Forall₂ (fun t e => produces t.name e = true) (tags.filter (!isLost es ·)) (es.filter (!isSpare tags ·))

/-- Deals out tags in order to the elements that are not spare. -/
def deal (spare : String → Bool) : List String → List StartTag → List (Option StartTag)
  | [], _ => []
  | e :: es, ts => if spare e then none :: deal spare es ts else ts.head? :: deal spare es ts.tail

section Dealing
variable {lost : StartTag → Bool} {spare : String → Bool} {es : List String} {tags kept : List StartTag}

/-- Where the tags produce the elements that are not spare, they are assigned as they are dealt out. -/
theorem assigns_deal (h : List.Forall₂ (fun t e => produces t.name e = true) kept (es.filter (!spare ·))) :
    Assigns (spare · = true) es kept (deal spare es kept) := by
  induction es generalizing kept with
  | nil =>
    obtain rfl := List.forall₂_nil_right_iff.mp h
    exact .nil
  | cons e es ih =>
    by_cases hs : spare e = true
    · rw [List.filter_cons_of_neg (by simp [hs])] at h
      rw [deal, if_pos hs]
      exact (ih h).spared hs
    · rw [List.filter_cons_of_pos (by simp [hs])] at h
      obtain ⟨t, kept', hp, h', rfl⟩ := List.forall₂_cons_right_iff.mp h
      rw [deal, if_neg hs]
      exact (ih h').taken hp

/-- Pairing deals out the tags that are not lost. -/
theorem pair_eq_deal
    (hlost : ∀ t ∈ tags, lost t = true → t.name ∈ droppedNames ∧ ∀ e ∈ es, produces t.name e = false)
    (hspare : ∀ e ∈ es, spare e = true → e ∈ impliedNames ∧ ∀ t ∈ tags, produces t.name e = false)
    (h : List.Forall₂ (fun t e => produces t.name e = true) (tags.filter (!lost ·)) (es.filter (!spare ·))) :
    pair es (tags.map some) = (deal spare es (tags.filter (!lost ·))).map (·.map (·.location)) := by
  induction es generalizing tags with
  | nil => rfl
  | cons e es ih =>
    have hspare' : ∀ f ∈ es, spare f = true → f ∈ impliedNames ∧ ∀ t ∈ tags, produces t.name f = false :=
      fun f hf => hspare f (List.mem_cons_of_mem _ hf)
    have hlost' : ∀ t ∈ tags, lost t = true → t.name ∈ droppedNames ∧ ∀ f ∈ es, produces t.name f = false :=
      fun t ht hl => ⟨(hlost t ht hl).1, fun f hf => (hlost t ht hl).2 f (List.mem_cons_of_mem _ hf)⟩
    by_cases hs : spare e = true
    · -- No tag produces the element, so there is none that it could reach over others.
      obtain ⟨implied, none_produces⟩ := hspare e List.mem_cons_self hs
      have clear : ¬ Overreaches e tags := by
        rintro ⟨passed, t, rest, rfl, -, hp⟩
        simp [none_produces t (by simp)] at hp
      rw [List.filter_cons_of_neg (by simp [hs])] at h
      rw [pair_cons, pairNext_of_not_overreaches implied clear, deal, if_pos hs, ih hlost' hspare' h]
      rfl
    · -- The tags in front of its own are lost, and the element passes over them.
      rw [List.filter_cons_of_pos (by simp [hs])] at h
      obtain ⟨t, kept, hp, h', hkept⟩ := List.forall₂_cons_right_iff.mp h
      obtain ⟨passed, rest, rfl, hpassed, -, rfl⟩ := List.filter_eq_cons_iff.mp hkept
      have pass : ∀ p ∈ passed.map some, isPassed e p = true := by
        simp only [List.forall_mem_map]
        intro p hmem
        obtain ⟨dropped, produces_none⟩ := hlost p (by simp [hmem]) (by simpa using hpassed p hmem)
        simp [isPassed, dropped, produces_none e List.mem_cons_self]
      have taken : pairNext e ((passed ++ t :: rest).map some) = (some t.location, rest.map some) := by
        rw [List.map_append, List.map_cons, pairNext_of_passed pass hp]
      have behind : rest ⊆ passed ++ t :: rest := fun u hu => by simp [hu]
      rw [pair_cons, taken, ih (fun u hu => hlost' u (behind hu))
        (fun f hf hs => ⟨(hspare' f hf hs).1, fun u hu => (hspare' f hf hs).2 u (behind hu)⟩) h', hkept, deal, if_neg hs]
      rfl

end Dealing

/-- Elements and tags in order are paired as the tags that are not lost are dealt out: each tag to an element that it
produces, all of them in order, and none to a spare element. So a document whose names are in order with the tags of a
source is located. -/
theorem locate_in_order {es : List String} {tags : List StartTag} (h : InOrder es tags) :
    let kept := tags.filter (!isLost es ·)
    let given := deal (isSpare tags) es kept
    Assigns (isSpare tags · = true) es kept given ∧
      pair es (tags.map some) = given.map (·.map (·.location)) ∧
      ∀ (source : String) (d : Document), names d = es → startTags source = tags →
        locate source d = rows d.elements (given.map (·.map (·.location))) := by
  intro kept given
  have paired : pair es (tags.map some) = given.map (·.map (·.location)) := by
    refine pair_eq_deal (fun t _ hl => ?_) (fun e _ hs => ?_) h
    · simpa [isLost] using hl
    · simpa [isSpare] using hs
  refine ⟨assigns_deal h, paired, ?_⟩
  rintro source d rfl rfl
  rw [locate_eq_rows, ← paired]
  rfl

/-- A page with a `th` outside of tables, which is dropped, and a table whose body and row are implied. -/
def strayCellPage : String := "<p><th>x</p><table><td>1"

/-- The paragraph, the table and the cell have their tags, and no other element has one. -/
theorem locate_in_order_strayCellPage :
    let d := Document.ofText strayCellPage
    InOrder (names d) (startTags strayCellPage) ∧
      names d = ["html", "head", "body", "p", "table", "tbody", "tr", "td"] ∧
      locate strayCellPage d = rows d.elements
        [none, none, none, some ⟨0, 1, 0⟩, some ⟨0, 13, 12⟩, none, none, some ⟨0, 20, 19⟩] := by
  intro d
  have elements : names d = ["html", "head", "body", "p", "table", "tbody", "tr", "td"] := by decide +kernel
  have tags : startTags strayCellPage =
      [⟨"p", ⟨0, 1, 0⟩⟩, ⟨"th", ⟨0, 4, 3⟩⟩, ⟨"table", ⟨0, 13, 12⟩⟩, ⟨"td", ⟨0, 20, 19⟩⟩] := by decide +kernel
  have kept : (startTags strayCellPage).filter (!isLost (names d) ·) =
      [⟨"p", ⟨0, 1, 0⟩⟩, ⟨"table", ⟨0, 13, 12⟩⟩, ⟨"td", ⟨0, 20, 19⟩⟩] := by
    rw [elements, tags]
    decide +kernel
  have needed : (names d).filter (!isSpare (startTags strayCellPage) ·) = ["p", "table", "td"] := by
    rw [elements, tags]
    decide +kernel
  have ordered : InOrder (names d) (startTags strayCellPage) := by
    rw [InOrder, kept, needed]
    have own : ∀ t : StartTag, produces t.name t.name = true := by simp [produces, Text.sameLetters]
    exact .cons (own _) (.cons (own _) (.cons (own _) .nil))
  have given : deal (isSpare (startTags strayCellPage)) (names d) ((startTags strayCellPage).filter (!isLost (names d) ·)) =
      [none, none, none, some ⟨"p", ⟨0, 1, 0⟩⟩, some ⟨"table", ⟨0, 13, 12⟩⟩, none, none, some ⟨"td", ⟨0, 20, 19⟩⟩] := by
    rw [kept, elements, tags]
    decide +kernel
  refine ⟨ordered, elements, ?_⟩
  rw [(locate_in_order ordered).2.2 _ _ rfl rfl, given]
  rfl

end Pagewalk.Source
