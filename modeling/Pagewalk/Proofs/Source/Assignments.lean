import Mathlib.Data.List.TakeWhile
import Pagewalk.Proofs.Source.Located

/-!
# Implied elements and the tags of others

All tags of a source may be given out in order, each to an element that it produces, with elements left over that
need no tag. Pairing looks for each element no further than it must, and so it finds such an assignment unless an
element that is left over reaches for a tag of its own name, over tags that may have been dropped. That is the only
way in which an implied element takes the tag of another.
-/

namespace Pagewalk.Source

/-! ### Assignments -/

/-- An element is given a tag that produces it, or it is left over and spare. -/
def Fits (spare : String → Prop) (element : String) : Option StartTag → Prop
  | some t => produces t.name element = true
  | none => spare element

/-- All tags are given out in their order, each to an element that it produces, and the elements left over are
spare. -/
structure Assigns (spare : String → Prop) (elements : List String) (tags : List StartTag)
    (given : List (Option StartTag)) : Prop where
  fits : List.Forall₂ (Fits spare) elements given
  all : held given = tags

namespace Assigns
variable {spare : String → Prop} {e : String} {es : List String} {t : StartTag} {ts : List StartTag}
  {given : List (Option StartTag)}

theorem nil : Assigns spare [] [] [] := ⟨.nil, rfl⟩

theorem taken (h : produces t.name e = true) (rest : Assigns spare es ts given) :
    Assigns spare (e :: es) (t :: ts) (some t :: given) := ⟨.cons h rest.fits, congrArg (t :: ·) rest.all⟩

theorem spared (h : spare e) (rest : Assigns spare es ts given) : Assigns spare (e :: es) ts (none :: given) :=
  ⟨.cons h rest.fits, rest.all⟩

/-- Tags that produce only spare elements need not be given out. -/
theorem drop_first (h : Assigns spare es (t :: ts) given) (ownSpare : ∀ e ∈ es, produces t.name e = true → spare e) :
    ∃ rest, Assigns spare es ts rest := by
  obtain ⟨fits, all⟩ := h
  induction fits with
  | nil => cases all
  | @cons e first es given hfirst fits ih =>
    cases first with
    | none =>
      obtain ⟨rest, hrest⟩ := ih (fun x hx => ownSpare x (List.mem_cons_of_mem _ hx)) all
      exact ⟨none :: rest, hrest.spared hfirst⟩
    | some u =>
      obtain ⟨rfl, same⟩ := List.cons.inj all
      exact ⟨none :: given, spared (ownSpare e (List.mem_cons_self ..) hfirst) ⟨fits, same⟩⟩

/-- Where the next tag would do for an element that is left over, the tags can be given out in another way. -/
theorem exists_other (h : Assigns spare es ts given) (ownSpare : ∀ e ∈ es, produces t.name e = true → spare e)
    {i : Nat} (he : es[i]? = some e) (hleft : given[i]? = some none) (hnext : (held (given.drop i)).head? = some t)
    (hp : produces t.name e = true) : ∃ other, Assigns spare es ts other ∧ other ≠ given := by
  obtain ⟨fits, all⟩ := h
  induction fits generalizing i ts with
  | nil => cases he
  | @cons first taken es given hfirst fits ih =>
    have ownSpare' : ∀ x ∈ es, produces t.name x = true → spare x := fun x hx => ownSpare x (List.mem_cons_of_mem _ hx)
    cases i with
    | zero =>
      -- The tag goes to the element that was left over, and the one that had it is left over instead.
      obtain rfl : first = e := Option.some.inj he
      obtain rfl : taken = none := Option.some.inj hleft
      obtain ⟨ts', hts⟩ := List.head?_eq_some_iff.mp hnext
      obtain ⟨rest, hrest⟩ := drop_first ⟨fits, hts⟩ ownSpare'
      have all' : held given = ts := all
      rw [← all', show held given = t :: ts' from hts]
      exact ⟨some t :: rest, hrest.taken hp, nofun⟩
    | succ i =>
      obtain ⟨other, hother, hne⟩ := ih ownSpare' he hleft hnext rfl
      refine ⟨taken :: other, ⟨.cons hfirst hother.fits, ?_⟩, fun same => hne (List.cons.inj same).2⟩
      rw [← all, held, List.filterMap_cons, held, List.filterMap_cons]
      have rest : other.filterMap id = given.filterMap id := hother.all
      rw [rest]

end Assigns

/-- The first element is given the first tag or left over. -/
theorem assigns_cons_iff {spare : String → Prop} {e : String} {es : List String} {ts : List StartTag}
    {given : List (Option StartTag)} : Assigns spare (e :: es) ts given ↔
      (∃ t rest left, ts = t :: left ∧ given = some t :: rest ∧ produces t.name e = true ∧ Assigns spare es left rest) ∨
        ∃ rest, given = none :: rest ∧ spare e ∧ Assigns spare es ts rest := by
  constructor
  · rintro ⟨fits, rfl⟩
    obtain ⟨first, rest, hfirst, others, rfl⟩ := List.forall₂_cons_left_iff.mp fits
    cases first with
    | some t => exact .inl ⟨t, rest, held rest, rfl, rfl, hfirst, others, rfl⟩
    | none => exact .inr ⟨rest, rfl, hfirst, others, rfl⟩
  · rintro (⟨t, rest, left, rfl, rfl, hp, h⟩ | ⟨rest, rfl, hs, h⟩)
    · exact h.taken hp
    · exact h.spared hs

/-- All ways in which the tags can be given out. -/
def assignments (spare : String → Bool) : List String → List StartTag → List (List (Option StartTag))
  | [], [] => [[]]
  | [], _ :: _ => []
  | e :: es, [] => if spare e then (assignments spare es []).map (none :: ·) else []
  | e :: es, t :: ts =>
    (if produces t.name e then (assignments spare es ts).map (some t :: ·) else []) ++
      if spare e then (assignments spare es (t :: ts)).map (none :: ·) else []

theorem mem_assignments {spare : String → Bool} {es : List String} {ts : List StartTag}
    {given : List (Option StartTag)} : given ∈ assignments spare es ts ↔ Assigns (spare · = true) es ts given := by
  induction es generalizing ts given with
  | nil =>
    cases ts with
    | nil =>
      rw [assignments, List.mem_singleton]
      exact ⟨fun h => h ▸ .nil, fun h => List.forall₂_nil_left_iff.mp h.fits⟩
    | cons t ts =>
      refine iff_of_false List.not_mem_nil fun h => ?_
      rw [List.forall₂_nil_left_iff.mp h.fits] at h
      cases h.all
  | cons e es ih =>
    have left_over : ∀ ts, given ∈ (if spare e then (assignments spare es ts).map (none :: ·) else []) ↔
        ∃ rest, given = none :: rest ∧ spare e = true ∧ Assigns (spare · = true) es ts rest := by
      intro ts
      rw [List.mem_ite_nil_right, List.mem_map]
      exact ⟨fun ⟨hs, rest, hrest, same⟩ => ⟨rest, same.symm, hs, ih.mp hrest⟩,
        fun ⟨rest, same, hs, hrest⟩ => ⟨hs, rest, ih.mpr hrest, same.symm⟩⟩
    rw [assigns_cons_iff, ← left_over]
    cases ts with
    | nil =>
      rw [assignments]
      exact (or_iff_right fun ⟨_, _, _, no, _⟩ => nomatch no).symm
    | cons t ts =>
      rw [assignments, List.mem_append, List.mem_ite_nil_right, List.mem_map]
      refine or_congr_left ⟨?_, ?_⟩
      · rintro ⟨hp, rest, hrest, rfl⟩
        exact ⟨t, rest, ts, rfl, rfl, hp, ih.mp hrest⟩
      · rintro ⟨u, rest, left, same, rfl, hp, h⟩
        obtain ⟨rfl, rfl⟩ := List.cons.inj same
        exact ⟨hp, rest, ih.mpr h, rfl⟩

/-! ### What an element looks at -/

/-- Among these tags an element finds one that produces it, behind none but tags that it may pass over. -/
def Overreaches (element : String) (tags : List StartTag) : Prop :=
  ∃ passed t rest, tags = passed ++ t :: rest ∧ (∀ p ∈ passed, isPassed element (some p) = true) ∧
    produces t.name element = true

theorem dropWhile_isPassed_append {element : String} {passed rest : List (Option StartTag)} {t : StartTag}
    (pass : ∀ p ∈ passed, isPassed element p = true) (hp : produces t.name element = true) :
    (passed ++ some t :: rest).dropWhile (isPassed element) = some t :: rest := by
  rw [List.dropWhile_append_of_pos pass, List.dropWhile_cons_of_neg]
  rw [isPassed, hp, Bool.not_true, Bool.and_false]
  exact Bool.false_ne_true

theorem dropWhile_isPassed_dropWhile_isNone (element : String) (tags : List (Option StartTag)) :
    (tags.dropWhile Option.isNone).dropWhile (isPassed element) = tags.dropWhile (isPassed element) := by
  induction tags with
  | nil => rfl
  | cons first tags ih =>
    cases first with
    | none => exact ih
    | some t => rfl

/-- An element takes the first tag that produces it when it may pass over all tags before. -/
theorem pairNext_of_passed {element : String} {passed rest : List (Option StartTag)} {t : StartTag}
    (pass : ∀ p ∈ passed, isPassed element p = true) (hp : produces t.name element = true) :
    pairNext element (passed ++ some t :: rest) = (some t.location, rest) := by
  rw [pairNext]
  simp only [dropWhile_isPassed_dropWhile_isNone, dropWhile_isPassed_append pass hp, hp, if_true]

theorem pairNext_of_produces {element : String} {t : StartTag} {rest : List (Option StartTag)}
    (hp : produces t.name element = true) : pairNext element (some t :: rest) = (some t.location, rest) :=
  @pairNext_of_passed element [] rest t (List.forall_mem_nil _) hp

/-- An element that meets another tag than its own looks ahead. -/
theorem pairNext_of_stuck {element : String} {tags : List (Option StartTag)}
    (other : ∀ t rest, tags.dropWhile (isPassed element) = some t :: rest → produces t.name element = false) :
    pairNext element tags = orAhead element (tags.dropWhile Option.isNone) := by
  rw [pairNext]
  simp only [dropWhile_isPassed_dropWhile_isNone]
  split
  · rename_i t rest h
    rw [if_neg (by rw [other t rest h]; exact Bool.false_ne_true)]
    rfl
  · rfl

theorem pairNext_of_overreaches {element : String} {tags : List StartTag} (h : Overreaches element tags) :
    ∃ t ∈ tags, (pairNext element (tags.map some)).1 = some t.location := by
  obtain ⟨passed, t, rest, rfl, pass, hp⟩ := h
  refine ⟨t, List.mem_append_right _ (List.mem_cons_self ..), ?_⟩
  have pass' : ∀ p ∈ passed.map some, isPassed element p = true := List.forall_mem_map.mpr pass
  rw [List.map_append, List.map_cons, pairNext_of_passed pass' hp]

/-- An implied element that does not overreach goes without a tag. -/
theorem pairNext_of_not_overreaches {element : String} {tags : List StartTag} (implied : element ∈ impliedNames)
    (h : ¬ Overreaches element tags) : pairNext element (tags.map some) = (none, tags.map some) := by
  have whole : (tags.map some).dropWhile Option.isNone = tags.map some := by cases tags <;> rfl
  rw [pairNext_of_stuck, whole, orAhead, if_pos (List.contains_iff_mem.mpr implied)]
  -- The tag at which it stops would otherwise be one that it overreaches for.
  intro t rest hdrop
  refine Bool.eq_false_iff.mpr fun hp => h ?_
  rw [List.dropWhile_map] at hdrop
  obtain ⟨t', rest', hdrop', ht, -⟩ := List.map_eq_cons_iff.mp hdrop
  obtain rfl := Option.some.inj ht
  refine ⟨tags.takeWhile (isPassed element ∘ some), t', rest', ?_, ?_, hp⟩
  · rw [← hdrop', List.takeWhile_append_dropWhile]
  · intro p hmem
    have pass : (isPassed element ∘ some) p = true := List.mem_takeWhile_imp hmem
    exact pass

/-! ### Pairing along an assignment -/

/-- Pairing finds an assignment exactly if no element that is left over overreaches among the tags of those behind
it. -/
theorem pair_eq_iff_of_fits {es : List String} {given : List (Option StartTag)}
    (fits : List.Forall₂ (Fits (· ∈ impliedNames)) es given) :
    pair es ((held given).map some) = given.map (·.map (·.location)) ↔
      ∀ i e, es[i]? = some e → given[i]? = some none → ¬ Overreaches e (held (given.drop i)) := by
  induction fits with
  | nil => exact iff_of_true rfl fun i e he => absurd he (by simp)
  | @cons e first es given hfirst fits ih =>
    rw [← Nat.and_forall_add_one, pair_cons]
    simp only [List.getElem?_cons_zero, List.getElem?_cons_succ, List.drop_zero, List.drop_succ_cons, List.map_cons]
    rw [← ih]
    cases first with
    | some t =>
      have taken : pairNext e ((held (some t :: given)).map some) = (some t.location, (held given).map some) :=
        pairNext_of_produces hfirst
      rw [taken]
      simp
    | none =>
      have rest : held (none :: given) = held given := rfl
      rw [rest]
      by_cases h : Overreaches e (held given)
      · obtain ⟨t, -, hfound⟩ := pairNext_of_overreaches h
        rw [hfound]
        simp [h]
      · rw [pairNext_of_not_overreaches hfirst h]
        simp [h]

/-! ### Locations along an assignment -/

/-- The names of the elements of a document. -/
def names (d : Document) : List String := d.elements.map (·.localName)

theorem length_pair (es : List String) (tags : List (Option StartTag)) : (pair es tags).length = es.length := by
  induction es generalizing tags with
  | nil => rfl
  | cons e es ih => rw [pair_cons, List.length_cons, ih, List.length_cons]

/-- A document is located as its elements are given tags exactly if pairing gives them the same ones. -/
theorem locate_eq_rows_iff {source : String} {d : Document} {given : List (Option StartTag)}
    (length : (names d).length = given.length) :
    locate source d = rows d.elements (given.map (·.map (·.location))) ↔
      pair (names d) ((startTags source).map some) = given.map (·.map (·.location)) := by
  have elements : d.elements.length = (names d).length := (List.length_map ..).symm
  rw [locate_eq_rows]
  refine rows_inj d.nodup_keys ?_ ?_
  · rw [elements, ← length_pair]
    rfl
  · rw [elements, length, List.length_map]

/-- A tag that produces an implied element produces no element of another name in small letters. -/
theorem eq_of_produces_implied {tag e f : String} (implied : e ∈ impliedNames) (he : produces tag e = true)
    (hf : produces tag f = true) (small : Text.lower f = f) : f = e := by
  have all_small : ∀ e ∈ impliedNames, Text.lower e = e := by decide +kernel
  have small' := all_small e implied
  rcases produces_eq_true he with same | ⟨-, rfl⟩
  · rcases produces_eq_true hf with same' | ⟨rfl, rfl⟩
    · rw [← small, ← same', same, small']
    · rw [small'] at same
      rw [← same] at implied
      exact absurd implied (by decide +kernel)
  · exact absurd implied (by decide +kernel)

/-- Where the tags of a source can be given out in one way only, to elements that they produce and with implied
elements left over, the document is located in this way exactly if no element that is left over overreaches. With
names in small letters the tag next to such an element is none of its own, so an element that overreaches does it
over the tag of another. -/
theorem locate_eq_assigned_iff {source : String} {d : Document} {given : List (Option StartTag)}
    (assigned : Assigns (· ∈ impliedNames) (names d) (startTags source) given)
    (only : ∀ other, Assigns (· ∈ impliedNames) (names d) (startTags source) other → other = given) :
    (locate source d = rows d.elements (given.map (·.map (·.location))) ↔
      ∀ i e, (names d)[i]? = some e → given[i]? = some none → ¬ Overreaches e (held (given.drop i))) ∧
    ((∀ e ∈ names d, Text.lower e = e) → ∀ i e t, (names d)[i]? = some e → given[i]? = some none →
      (held (given.drop i)).head? = some t → produces t.name e = false) := by
  constructor
  · rw [locate_eq_rows_iff assigned.fits.length_eq, ← assigned.all]
    exact pair_eq_iff_of_fits assigned.fits
  · intro small i e t he hleft hnext
    refine Bool.eq_false_iff.mpr fun hp => ?_
    have implied : e ∈ impliedNames := by
      have fit := List.forall₂_iff_get.mp assigned.fits
      obtain ⟨hi, rfl⟩ := List.getElem?_eq_some_iff.mp he
      obtain ⟨hi', hnone⟩ := List.getElem?_eq_some_iff.mp hleft
      have here := fit.2 i hi hi'
      rw [List.get_eq_getElem, List.get_eq_getElem, hnone] at here
      exact here
    have ownSpare : ∀ f ∈ names d, produces t.name f = true → f ∈ impliedNames := by
      intro f hf hpf
      rw [eq_of_produces_implied implied hp hpf (small f hf)]
      exact implied
    obtain ⟨other, hother, hne⟩ := assigned.exists_other ownSpare he hleft hnext hp
    exact hne (only other hother)

/-! ### Two tables -/

/-- A table with a cell that stands in no row, and a paragraph after it. -/
def cellPage : String := "<table><td>1</td></table><p>"

/-- The cell keeps its tag, as the implied row finds no tag of its own name behind it. -/
theorem locate_eq_assigned_cellPage :
    let given := [none, none, none, some ⟨"table", ⟨0, 1, 0⟩⟩, none, none, some ⟨"td", ⟨0, 8, 7⟩⟩,
      some ⟨"p", ⟨0, 26, 25⟩⟩]
    let d := Document.ofText cellPage
    Assigns (· ∈ impliedNames) (names d) (startTags cellPage) given ∧
      (∀ other, Assigns (· ∈ impliedNames) (names d) (startTags cellPage) other → other = given) ∧
      locate cellPage d = rows d.elements (given.map (·.map (·.location))) ∧
      ∀ i e, (names d)[i]? = some e → given[i]? = some none → ¬ Overreaches e (held (given.drop i)) := by
  intro given d
  have unique : assignments impliedNames.contains (names d) (startTags cellPage) = [given] := by decide +kernel
  have assigns_iff : ∀ other, Assigns (· ∈ impliedNames) (names d) (startTags cellPage) other ↔ other = given := by
    intro other
    rw [← List.mem_singleton, ← unique, mem_assignments]
    simp only [List.contains_iff_mem]
  have located : locate cellPage d = rows d.elements (given.map (·.map (·.location))) := by decide +kernel
  have assigned := (assigns_iff given).mpr rfl
  have only := fun other => (assigns_iff other).mp
  exact ⟨assigned, only, located, (locate_eq_assigned_iff assigned only).1.mp located⟩

/-- A table with a cell that stands in no row, and a row after it. -/
def rowPage : String := "<table><td>1</td><tr></tr></table>"

/-- The implied row around the cell takes the tag of the row after it, although only the second row can have it; the
cell and the second row go without. -/
theorem locate_misses_row :
    let given := [none, none, none, some ⟨"table", ⟨0, 1, 0⟩⟩, none, none, some ⟨"td", ⟨0, 8, 7⟩⟩,
      some ⟨"tr", ⟨0, 18, 17⟩⟩]
    let d := Document.ofText rowPage
    (Document.parse default rowPage).2 = .ok (Document.located rowPage) ∧
      (∀ other, Assigns (· ∈ impliedNames) (names d) (startTags rowPage) other ↔ other = given) ∧
      locate rowPage d ≠ rows d.elements (given.map (·.map (·.location))) := by
  intro given d
  have unique : assignments impliedNames.contains (names d) (startTags rowPage) = [given] := by decide +kernel
  refine ⟨Document.parse_of_lenient (by decide) rfl, fun other => ?_, by decide +kernel⟩
  rw [← List.mem_singleton, ← unique, mem_assignments]
  simp only [List.contains_iff_mem]

end Pagewalk.Source
