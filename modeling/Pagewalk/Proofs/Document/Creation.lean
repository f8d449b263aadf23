import Pagewalk.Document.Query
import Pagewalk.Proofs.Page

/-!
# The order of creation

A document answers a query by going through its elements as they were made, together with those that stand below a node
that was taken out of the tree. The answer is the matching elements of the document in document order exactly if these
were made in that order and nothing below a node that was taken out matches. A page in whose table a paragraph stands,
which is put before the table, and a page whose body gives way to frames are read to documents of which this is not true.
-/

namespace Pagewalk

/-- An element matches what a text writes, if the text writes a selector. -/
def Element.satisfies (selector : String) (e : Element) : Bool :=
  match e.matchesText selector with
  | .ok b => b
  | .error _ => false

namespace Element
variable {selector : String} {s : Selector} {e : Element}

theorem matchesText_of_read (h : Selector.read selector = .ok s) :
    e.matchesText selector = .ok (e.matchesWithin none s) := by
  rw [matchesText, h]
  rfl

theorem satisfies_of_read (h : Selector.read selector = .ok s) : e.satisfies selector = e.matchesWithin none s := by
  -- The equation of the definition would be looked for by reading the selector.
  delta satisfies
  rw [matchesText_of_read h]

end Element

namespace Document

variable {d : Document}

/-- The elements below nodes that were taken out of the tree. -/
def strays (d : Document) : List Element :=
  (d.detachedTrails.filterMap Element.ofTrail?).filter fun e => !e.above.isEmpty

/-- One element was made no later than another. -/
def madeNoLater (e f : Element) : Bool := decide (e.data.born ≤ f.data.born)

theorem madeNoLater_trans (e f g : Element) (h : madeNoLater e f) (h' : madeNoLater f g) : madeNoLater e g :=
  decide_eq_true (Nat.le_trans (of_decide_eq_true h) (of_decide_eq_true h'))

theorem madeNoLater_total (e f : Element) : madeNoLater e f || madeNoLater f e := by
  rcases Nat.le_total e.data.born f.data.born with h | h
  · simp [madeNoLater, h]
  · simp [madeNoLater, h]

theorem inCreationOrder_perm (d : Document) : d.inCreationOrder.Perm (d.elements ++ d.strays) := List.mergeSort_perm ..

theorem inCreationOrder_pairwise (d : Document) : d.inCreationOrder.Pairwise (madeNoLater · ·) :=
  List.pairwise_mergeSort madeNoLater_trans madeNoLater_total (d.elements ++ d.strays)

/-- What is in the order of creation already stays in it. -/
theorem sublist_inCreationOrder {es : List Element} (sub : es.Sublist (d.elements ++ d.strays))
    (order : es.Pairwise (madeNoLater · ·)) : es.Sublist d.inCreationOrder :=
  List.sublist_mergeSort madeNoLater_trans madeNoLater_total order sub

/-- The elements that are wanted, in the order of creation, are those of the document in document order exactly if these
were made in that order and none of those that were taken out is wanted. -/
theorem filter_inCreationOrder_eq_iff (wanted : Element → Bool) :
    d.inCreationOrder.filter wanted = d.elements.filter wanted ↔
      (d.elements.filter wanted).Pairwise (madeNoLater · ·) ∧ ∀ e ∈ d.strays, wanted e = false := by
  have perm : (d.inCreationOrder.filter wanted).Perm (d.elements.filter wanted ++ d.strays.filter wanted) := by
    rw [← List.filter_append]
    exact d.inCreationOrder_perm.filter wanted
  have length := perm.length_eq
  rw [List.length_append] at length
  constructor
  · intro same
    refine ⟨same ▸ d.inCreationOrder_pairwise.sublist List.filter_sublist, ?_⟩
    rw [same] at length
    have none : d.strays.filter wanted = [] := List.eq_nil_of_length_eq_zero (by omega)
    simpa using List.filter_eq_nil_iff.mp none
  · rintro ⟨order, stray⟩
    have none : d.strays.filter wanted = [] := List.filter_eq_nil_iff.mpr (by simpa using stray)
    have sub : (d.elements.filter wanted).Sublist (d.elements ++ d.strays) :=
      List.filter_sublist.trans (List.sublist_append_left ..)
    have among := (sublist_inCreationOrder sub order).filter wanted
    rw [List.filter_filter] at among
    simp only [Bool.and_self] at among
    rw [none, List.length_nil, Nat.add_zero] at length
    exact (among.eq_of_length length.symm).symm

/-- What a selector that can be read asks of elements, and what the document answers. -/
theorem queryAll_of_read {selector : String} {s : Selector} (h : Selector.read selector = .ok s) :
    d.queryAll selector = .ok (d.inCreationOrder.filter (·.satisfies selector)) := by
  have same : (fun e : Element => e.satisfies selector) = fun e => e.matchesWithin none s :=
    funext fun _ => Element.satisfies_of_read h
  rw [queryAll, h, same]
  rfl

/-- A document answers a query with the elements that match, in the order in which they were made, those below nodes
that were taken out of the tree included; asked for one, it answers the first of them. These are the matching elements
of the document in document order exactly if they were made in this order and none of the others matches. -/
theorem queryAll_eq_iff (d : Document) (selector : String) (es : List Element) (h : d.queryAll selector = .ok es) :
    let listed := d.elements.filter (·.satisfies selector)
    let stray := d.strays.filter (·.satisfies selector)
    (∀ e : Element, e.matchesText selector = .ok (e.satisfies selector)) ∧
    es.Perm (listed ++ stray) ∧ es.Pairwise (madeNoLater · ·) ∧ d.query selector = .ok es.head? ∧
    (es = listed ↔ listed.Pairwise (madeNoLater · ·) ∧ stray = []) := by
  intro listed stray
  cases hs : Selector.read selector with
  | error fault =>
    rw [queryAll, hs] at h
    cases h
  | ok s =>
    have answer := queryAll_of_read (d := d) hs
    obtain rfl := Except.ok.inj (answer.symm.trans h)
    refine ⟨fun e => ?_, ?_, d.inCreationOrder_pairwise.sublist List.filter_sublist, ?_, ?_⟩
    · rw [Element.satisfies_of_read hs, Element.matchesText_of_read hs]
    · rw [← List.filter_append]
      exact d.inCreationOrder_perm.filter _
    · rw [query, answer]
      rfl
    · rw [filter_inCreationOrder_eq_iff, List.filter_eq_nil_iff]
      simp only [Bool.not_eq_true]
      rfl

/-- A page whose paragraph is put before the table in which it stands. -/
def fosterPage : Document := .located "<table><p>"

/-- A page whose body is taken out, with the paragraph in it, where frames take its place. -/
def framedPage : Document := .located "<p></p><frameset>"

theorem exists_read (selector : String) (h : (Selector.read selector).toOption.isSome = true) :
    ∃ s, Selector.read selector = .ok s := by
  cases hs : Selector.read selector with
  | ok s => exact ⟨s, rfl⟩
  | error fault =>
    rw [hs] at h
    cases h

theorem queryAll_eq_iff_fosterPage :
    ∃ es, fosterPage.queryAll "p, table" = .ok es ∧
      es.Perm (fosterPage.elements.filter (·.satisfies "p, table")) ∧ es.Pairwise (madeNoLater · ·) ∧
      (fosterPage.elements.filter (·.satisfies "p, table")).map (·.localName) = ["p", "table"] ∧
      es ≠ fosterPage.elements.filter (·.satisfies "p, table") := by
  obtain ⟨s, reads⟩ := exists_read "p, table" (by decide +kernel)
  have h := queryAll_of_read (d := fosterPage) reads
  obtain ⟨-, perm, order, -, exact⟩ := queryAll_eq_iff fosterPage "p, table" _ h
  have stray : (fosterPage.strays.filter (·.satisfies "p, table")).length = 0 := by decide +kernel
  rw [List.eq_nil_of_length_eq_zero stray, List.append_nil] at perm
  refine ⟨_, h, perm, order, by decide +kernel, fun same => ?_⟩
  have made := (exact.mp same).1
  revert made
  decide +kernel

/-- On a page that was read a query answers the table before the paragraph that goes before it, and on another one it
answers a paragraph that is not in the document. -/
theorem queryAll_misses_order :
    (parse {} "<table><p>").2 = .ok fosterPage ∧
    (∃ es, fosterPage.queryAll "p, table" = .ok es ∧ es ≠ fosterPage.elements.filter (·.satisfies "p, table")) ∧
    (parse {} "<p></p><frameset>").2 = .ok framedPage ∧
    (∃ e, framedPage.query "p" = .ok (some e)) ∧ framedPage.elements.filter (·.satisfies "p") = [] := by
  obtain ⟨s, reads⟩ := exists_read "p, table" (by decide +kernel)
  obtain ⟨t, reads'⟩ := exists_read "p" (by decide +kernel)
  refine ⟨parse_of_lenient (by decide) rfl, ⟨_, queryAll_of_read reads, fun same => ?_⟩,
    parse_of_lenient (by decide) rfl, ?_, List.eq_nil_of_length_eq_zero (by decide +kernel)⟩
  · have made := (filter_inCreationOrder_eq_iff _).mp same
    have misordered : ¬ (fosterPage.elements.filter (·.satisfies "p, table")).Pairwise (madeNoLater · ·) := by
      decide +kernel
    exact misordered made.1
  · have length := (framedPage.inCreationOrder_perm.filter (·.satisfies "p")).length_eq
    have one : ((framedPage.elements ++ framedPage.strays).filter (·.satisfies "p")).length = 1 := by decide +kernel
    obtain ⟨e, single⟩ := List.length_eq_one_iff.mp (length.trans one)
    refine ⟨e, ?_⟩
    rw [query, queryAll_of_read reads', single]
    rfl

end Document

end Pagewalk
