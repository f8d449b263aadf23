import Mathlib.Logic.Relation
import Pagewalk.Proofs.Document.Navigation
import Pagewalk.Proofs.Script.Queries
import Pagewalk.Proofs.Walk.Coverage

/-!
# The tree that scripts see

By numbers the nodes of a document are a tree, except where a template comes in: what stands right in its fragment
has no parent by number, so it counts as a child of the document, which does not list it. A query does look into a
fragment, and so finds elements from which no way up leads back. A node is among the children of its parent, once,
exactly if it does not stand right in a fragment; and the way up from what a query of an element finds leads back to
the element exactly if it passes no fragment.
-/

namespace Pagewalk

/-! ### The line of elements above an element -/

/-- The element at the end of a trail and those above it, as long as elements stand there. -/
def Trail.line : Trail → List Element
  | [] => []
  | s :: above =>
    match Element.ofTrail? (s :: above) with
    | some e => e :: Trail.line above
    | none => []

theorem Trail.line_eq_nil {t : Trail} (h : Element.ofTrail? t = none) : Trail.line t = [] := by
  cases t with
  | nil => rfl
  | cons s above => rw [line, h]

/-- The node stands right in a fragment. -/
def Trail.isRightInFragment (t : Trail) : Bool := (t.drop 1).head?.any fun s => s.node.isFragment

namespace Document

variable {d : Document}

/-- The node above a node of the document is an element or a fragment. -/
theorem above_of_mem {s u : Step} {above : Trail} (h : s :: u :: above ∈ d.trails) :
    u :: above ∈ d.trails ∧ ((Element.ofTrail? (u :: above)).isSome ↔ u.node.isFragment = false) := by
  rcases eq_top_or_kid h with top | ⟨u, above, i, kid, eq, hu, hk⟩
  · cases (List.cons.inj top).2
  · obtain ⟨rfl, rfl⟩ := List.cons.inj (List.cons.inj eq).2
    refine ⟨hu, ?_⟩
    obtain ⟨place, node⟩ := u
    cases node with
    | element data kids => exact iff_of_true rfl rfl
    | fragment kids => exact iff_of_false (fun no => nomatch no) (fun no => nomatch no)
    | text s => cases hk
    | comment s => cases hk

end Document

namespace Element

theorem line_trail (e : Element) : Trail.line e.trail = e :: Trail.line e.above := rfl

/-- An element is in the line above another one exactly if no fragment stands between. -/
theorem mem_line_iff {d : Document} {e f : Element} {below : Trail} (hf : f ∈ d.elements)
    (h : f.trail = below ++ e.trail) : e ∈ Trail.line f.trail ↔ ∀ s ∈ below, s.node.isFragment = false := by
  induction below generalizing f with
  | nil =>
    rw [List.nil_append] at h
    rw [h]
    exact iff_of_true List.mem_cons_self fun s hs => absurd hs List.not_mem_nil
  | cons s below ih =>
    obtain rfl : ⟨f.place, f.node⟩ = s := (List.cons.inj h).1
    have above : f.above = below ++ e.trail := (List.cons.inj h).2
    have other : e ≠ f := by
      rintro rfl
      have := congrArg List.length h
      rw [List.length_append, List.length_cons] at this
      omega
    rw [line_trail, above, List.mem_cons, or_iff_right other, List.forall_mem_cons,
      and_iff_right (show f.node.isFragment = false from rfl)]
    -- Where the trail above is no element's, the line stops at a fragment.
    cases hg : ofTrail? (below ++ e.trail) with
    | some g =>
      have up : g.trail = below ++ e.trail := trail_of_ofTrail? hg
      rw [← up]
      exact ih (NumberedDocument.parent_mem hf ((congrArg ofTrail? above).trans hg)) up
    | none =>
      cases below with
      | nil => cases hg
      | cons u below =>
        have closed : ¬ u.node.isFragment = false := by
          have own := Document.mem_elements.mp hf
          rw [h, List.cons_append, List.cons_append] at own
          intro isElement
          have := (Document.above_of_mem own).2.mpr isElement
          rw [List.cons_append] at hg
          rw [hg] at this
          cases this
        refine iff_of_false ?_ fun all => closed (all u List.mem_cons_self)
        rw [Trail.line_eq_nil hg]
        exact List.not_mem_nil

end Element

namespace NumberedDocument

variable {d : Document} {i j : Nat}

/-- From one node another is reached by going from parent to parent. -/
def Leads (p : NumberedDocument) : Nat → Nat → Prop :=
  Relation.ReflTransGen fun i up => p.parent (some i) = .ok (some up)

/-- The way up by numbers goes along the line of elements. -/
theorem leads_iff {e f : Element} (he : d.numbered.element i = .ok e) (hf : d.numbered.element j = .ok f) :
    d.numbered.Leads j i ↔ e ∈ Trail.line f.trail := by
  constructor
  · intro way
    induction way using Relation.ReflTransGen.head_induction_on generalizing f with
    | refl =>
      obtain rfl := Except.ok.inj (he.symm.trans hf)
      exact List.mem_cons_self
    | head step _ ih =>
      obtain ⟨g, hg, hm⟩ := (parent_eq_some hf).mp step
      have up : g.trail = f.above := Element.trail_of_ofTrail? hg
      exact List.mem_cons_of_mem f (up ▸ ih hm)
  · intro above
    induction ht : f.trail generalizing f j with
    | nil => cases ht
    | cons s trail ih =>
      rw [Element.line_trail, List.mem_cons] at above
      rcases above with rfl | above
      · obtain rfl := element_inj he hf
        exact .refl
      · obtain ⟨g, hg⟩ : ∃ g, f.parent? = some g := by
          cases hg : f.parent? with
          | some g => exact ⟨g, rfl⟩
          | none =>
            rw [Trail.line_eq_nil hg] at above
            cases above
        have up : g.trail = f.above := Element.trail_of_ofTrail? hg
        obtain ⟨m, -, hm⟩ := exists_position (parent_mem (mem_of_element hf) hg)
        exact .head ((parent_eq_some hf).mpr ⟨g, hg, hm⟩) (ih hm (up ▸ above) (up.trans (List.cons.inj ht).2))

/-- How often a node stands among the children of its parent. -/
theorem count_siblings {t : Trail} (ht : t ∈ d.trails) {n : Listed} (hl : Listed.ofTrail? t = some n)
    (hi : d.nodes[i]? = some n) :
    ∃ up siblings, d.numbered.parent (some i) = .ok up ∧ d.numbered.children up false = .ok siblings ∧
      siblings.count i = if t.isRightInFragment then 0 else 1 := by
  have first : d.nodes[0]? = some ⟨[0], none, .element d.root⟩ := rfl
  have outermost := children_document d false
  have key := Listed.key_of_ofTrail? hl
  rcases Document.eq_top_or_kid ht with rfl | ⟨s, above, place, kid, rfl, hs, hk⟩
  · have same : i = 0 := by
      have root := d.numbers.position_of_get first
      have own := d.numbers.position_of_get hi
      rw [key] at own
      exact Option.some.inj (own.symm.trans root)
    exact ⟨none, [0], parent_eq ht hl hi, outermost, by rw [same]; rfl⟩
  · have up := parent_eq ht hl hi
    have mark := (Document.above_of_mem ht).2
    have right : Trail.isRightInFragment (⟨place, kid⟩ :: s :: above) = s.node.isFragment := rfl
    rw [right]
    cases he : Element.ofTrail? (s :: above) with
    | none =>
      rw [he] at up mark
      have closed : s.node.isFragment = true := by simpa using mark
      refine ⟨none, [0], up, outermost, ?_⟩
      have other : i ≠ 0 := by
        rintro rfl
        rw [first] at hi
        cases hi
        cases key
      rw [closed, List.count_singleton]
      simp [Ne.symm other]
    | some e =>
      rw [he] at up mark
      have closed : s.node.isFragment = false := mark.mp rfl
      obtain ⟨rfl, rfl⟩ := List.cons.inj (Element.trail_of_ofTrail? he)
      have inside : e ∈ d.elements := Document.mem_elements.mpr hs
      obtain ⟨j, hj, found⟩ := exists_position inside
      obtain ⟨is, all, -, listed⟩ := children_eq found
      refine ⟨some j, is, up.trans (congrArg Except.ok hj), all, ?_⟩
      have once : is.Nodup := by
        refine .of_map (d.nodes[·]?) ?_
        rw [listed]
        exact ((d.nodup_nodes.of_map _).sublist (Element.listedKids_sublist inside)).map fun _ _ => Option.some.inj
      have among : i ∈ is := by
        obtain ⟨m, hm, same⟩ : ∃ m ∈ is, d.nodes[m]? = some n := by
          rw [← List.mem_map (f := (d.nodes[·]?)), listed]
          exact List.mem_map_of_mem
            (List.mem_filterMap.mpr ⟨(kid, place), List.mk_mem_zipIdx_iff_getElem?.mpr hk, hl⟩)
        have := (d.numbers.position_of_get hi).symm.trans (d.numbers.position_of_get same)
        exact Option.some.inj this ▸ hm
      rw [closed, List.count_eq_one_of_mem once among]
      rfl

end NumberedDocument

namespace Script

open NumberedDocument

/-- A node is among the children of its parent, once, unless it stands right in a fragment; then it is not among them.
From an element that a query of another finds the way up leads back exactly if no fragment stands between. -/
theorem tree_except_fragments (d : Document) :
    (∀ t ∈ d.trails, ∀ n i, Listed.ofTrail? t = some n → d.nodes[i]? = some n →
      ∃ up siblings, d.numbered.parent (some i) = .ok up ∧ d.numbered.children up false = .ok siblings ∧
        siblings.count i = if t.isRightInFragment then 0 else 1) ∧
    ∀ i e (q : Question) es, d.numbered.element i = .ok e → q.answer d (some e) = .ok es →
      ∀ f ∈ es, ∃ j below, d.numbered.element j = .ok f ∧ f.trail = below ++ e.trail ∧
        (d.numbered.Leads j i ↔ ∀ s ∈ below, s.node.isFragment = false) := by
  refine ⟨fun t ht n i hl hi => count_siblings ht hl hi, fun i e q es he answered f hf => ?_⟩
  have among := (Question.answer_sublist answered).subset hf
  have inside := Document.descendants_subset (mem_of_element he) among
  obtain ⟨j, -, hj⟩ := exists_position inside
  obtain ⟨t, ht, found⟩ := List.mem_filterMap.mp among
  obtain ⟨below, place, kid, -, eq⟩ := Node.mem_trailsOfAll ht
  have trail : f.trail = (below ++ [⟨0 + place, kid⟩]) ++ e.trail := by
    rw [Element.trail_of_ofTrail? found, eq, List.append_assoc]
    rfl
  exact ⟨j, _, hj, trail, (leads_iff he hj).trans (Element.mem_line_iff inside trail)⟩

open Walk (templatePage)

/-- The paragraph in the template of a page is listed, right in a fragment. -/
theorem exists_templateTrail : ∃ t ∈ templatePage.trails, ∃ n, Listed.ofTrail? t = some n ∧
    templatePage.nodes[3]? = some n ∧ t.isRightInFragment = true := by
  have third : templatePage.nodes[3]?.map (·.key) = some [0, 0, 0, 0, 0] := by decide +kernel
  obtain ⟨n, hn, key⟩ := Option.map_eq_some_iff.mp third
  obtain ⟨t, ht, hl⟩ := Document.mem_nodes.mp (List.mem_of_getElem? hn)
  have closed : ∀ t ∈ templatePage.trails, Trail.key t = [0, 0, 0, 0, 0] → t.isRightInFragment = true := by
    decide +kernel
  exact ⟨t, ht, n, hl, hn, closed t ht ((Listed.key_of_ofTrail? hl).symm.trans key)⟩

/-- A query of the template of a page finds the paragraph in it. -/
theorem exists_templateAnswer : ∃ e es f, templatePage.numbered.element 2 = .ok e ∧
    (Question.tagged "p").answer templatePage (some e) = .ok es ∧ f ∈ es ∧
    templatePage.numbered.element 3 = .ok f := by
  have second : (templatePage.numbered.element 2).toOption.map (fun e => (e.withTag "p").map Element.key) =
      some [[0, 0, 0, 0, 0]] := by decide +kernel
  have third : (templatePage.numbered.element 3).toOption.map Element.key = some [0, 0, 0, 0, 0] := by decide +kernel
  cases he : templatePage.numbered.element 2 with
  | error fault =>
    rw [he] at second
    cases second
  | ok e =>
    cases hf : templatePage.numbered.element 3 with
    | error fault =>
      rw [hf] at third
      cases third
    | ok f =>
      rw [he] at second
      rw [hf] at third
      obtain ⟨g, rest, found, key, -⟩ := List.map_eq_cons_iff.mp (Option.some.inj second)
      have among : g ∈ e.withTag "p" := found ▸ List.mem_cons_self
      have inside := Document.descendants_subset (mem_of_element he) (List.mem_filter.mp among).1
      have same := Document.eq_of_key inside (mem_of_element hf) (key.trans (Option.some.inj third).symm)
      exact ⟨e, _, f, rfl, rfl, same ▸ among, rfl⟩

theorem tree_except_fragments_templatePage :
    (∃ t ∈ templatePage.trails, ∃ n, Listed.ofTrail? t = some n ∧ templatePage.nodes[3]? = some n ∧
      t.isRightInFragment = true ∧ ∃ up siblings, templatePage.numbered.parent (some 3) = .ok up ∧
        templatePage.numbered.children up false = .ok siblings ∧ siblings.count 3 = 0) ∧
    ∃ e es f, templatePage.numbered.element 2 = .ok e ∧
      (Question.tagged "p").answer templatePage (some e) = .ok es ∧ f ∈ es ∧
      ∃ j below, templatePage.numbered.element j = .ok f ∧ f.trail = below ++ e.trail ∧
        (templatePage.numbered.Leads j 2 ↔ ∀ s ∈ below, s.node.isFragment = false) := by
  obtain ⟨t, ht, n, hl, hn, closed⟩ := exists_templateTrail
  obtain ⟨e, es, f, he, answered, hf, -⟩ := exists_templateAnswer
  have both := tree_except_fragments templatePage
  refine ⟨⟨t, ht, n, hl, hn, closed, ?_⟩, e, es, f, he, answered, hf, both.2 2 e _ es he answered f hf⟩
  have counted := both.1 t ht n 3 hl hn
  rw [closed] at counted
  exact counted

/-- On a page that was read the paragraph in a template is not among the children of its parent, and no way up leads
from it to the template in which a query finds it. -/
theorem template_breaks_tree :
    (Document.parse {} "<template><p></p></template>").2 = .ok templatePage ∧
    (∃ up siblings, templatePage.numbered.parent (some 3) = .ok up ∧
      templatePage.numbered.children up false = .ok siblings ∧ siblings.count 3 = 0) ∧
    ∃ e es f, templatePage.numbered.element 2 = .ok e ∧
      (Question.tagged "p").answer templatePage (some e) = .ok es ∧ f ∈ es ∧
      templatePage.numbered.element 3 = .ok f ∧ ¬ templatePage.numbered.Leads 3 2 := by
  obtain ⟨t, ht, n, hl, hn, closed⟩ := exists_templateTrail
  obtain ⟨e, es, f, he, answered, hf, third⟩ := exists_templateAnswer
  obtain ⟨up, siblings, parent, children, counted⟩ := count_siblings ht hl hn
  rw [closed] at counted
  refine ⟨Document.parse_of_lenient (by decide) rfl, ⟨up, siblings, parent, children, counted⟩, ?_⟩
  refine ⟨e, es, f, he, answered, hf, third, fun way => ?_⟩
  have short : (templatePage.numbered.element 3).toOption.map (fun f => (Trail.line f.above).length) = some 0 := by
    decide +kernel
  rw [third] at short
  have line := (leads_iff he third).mp way
  rw [Element.line_trail, List.eq_nil_of_length_eq_zero (Option.some.inj short), List.mem_singleton] at line
  exact absurd (element_inj he (line ▸ third)) (by decide)

end Script

end Pagewalk
