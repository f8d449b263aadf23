import Pagewalk.Proofs.Document.Numbers

/-!
# Navigation by numbers

From a node a script goes up to its parent and down to its children, by numbers. On every page these lead to the
elements and nodes to which the elements themselves lead: the parent of an element is the element right above it, and
the children are the elements, texts and comments right below, in their order.
-/

namespace Pagewalk

/-! ### Children in the listing -/

/-- The items at the places where a test holds are those that pass it. -/
theorem filter_range_getElem {α : Type} (l : List α) (q : α → Bool) :
    ((List.range l.length).filter fun j => l[j]?.any q).map (l[·]?) = (l.filter q).map some := by
  induction l using List.reverseRecOn with
  | nil => rfl
  | append_singleton l a ih =>
    have old (j : Nat) (h : j < l.length) : (l ++ [a])[j]? = l[j]? := List.getElem?_append_left h
    rw [List.length_append, List.length_singleton, List.range_succ, List.filter_append, List.map_append,
      List.filter_append, List.map_append, ← ih]
    congr 1
    · rw [List.filter_congr fun j hj => by rw [old j (List.mem_range.mp hj)]]
      exact List.map_congr_left fun j hj => old j (List.mem_range.mp (List.mem_filter.mp hj).1)
    · have last : (l ++ [a])[l.length]? = some a := List.getElem?_concat_length
      by_cases h : q a <;> simp [h]

/-- A part of a list without repetitions is what passes the test of being in it. -/
theorem filter_eq_of_sublist {α : Type} {part l : List α} {q : α → Bool} (h : part.Sublist l) (once : l.Nodup)
    (hq : ∀ a ∈ l, q a = true ↔ a ∈ part) : l.filter q = part := by
  induction h with
  | slnil => rfl
  | @cons part l a sub ih =>
    obtain ⟨fresh, once⟩ := List.nodup_cons.mp once
    have out : ¬ q a = true := fun hit => fresh (sub.subset ((hq a List.mem_cons_self).mp hit))
    rw [List.filter_cons_of_neg out]
    exact ih once fun b hb => hq b (List.mem_cons_of_mem a hb)
  | @cons_cons part l a sub ih =>
    obtain ⟨fresh, once⟩ := List.nodup_cons.mp once
    rw [List.filter_cons_of_pos ((hq a List.mem_cons_self).mpr List.mem_cons_self)]
    congr 1
    refine ih once fun b hb => (hq b (List.mem_cons_of_mem a hb)).trans ?_
    rw [List.mem_cons]
    exact or_iff_right fun same => fresh (same ▸ hb)

/-- The children of an element that are listed, with their keys. -/
def Element.listedKids (e : Element) : List Listed :=
  e.kids.zipIdx.filterMap fun (n, i) => Listed.ofTrail? (⟨i, n⟩ :: e.trail)

namespace Element

theorem childNodes_eq (e : Element) : e.childNodes = e.listedKids.map (·.view) := by
  rw [childNodes, listedKids, List.map_filterMap]
  congr 1
  funext ⟨n, i⟩
  simp only [Listed.ofTrail?, Option.map_map, Function.comp_def, Option.map_id_fun']
  rfl

theorem children_eq (e : Element) : e.children = e.childNodes.filterMap NodeView.element? := by
  rw [children, ofKids, childNodes, List.filterMap_filterMap]
  congr 1
  funext ⟨n, i⟩
  exact ofTrail?_eq _

theorem listedKids_sublist {d : Document} {e : Element} (he : e ∈ d.elements) : e.listedKids.Sublist d.nodes := by
  have kids : (e.kids.zipIdx.map fun (n, i) => (⟨i, n⟩ :: e.trail : Trail)).Sublist d.trails :=
    ((Node.kids_sublist e.trail 0 e.kids).trans (Node.trailsOfAll_sublist e.above e.place e.node)).trans
      (Node.trails_sublist (Document.mem_elements.mp he))
  have listed := kids.filterMap Listed.ofTrail?
  rw [List.filterMap_map] at listed
  exact listed

/-- The listed children of an element are the listed nodes whose parent it is. -/
theorem filter_parent {d : Document} {e : Element} (he : e ∈ d.elements) :
    (d.nodes.filter fun n => n.parent == some e.key) = e.listedKids := by
  refine filter_eq_of_sublist (listedKids_sublist he) (d.nodup_nodes.of_map _) fun n hn => ?_
  rw [beq_iff_eq]
  obtain ⟨t, ht, hl⟩ := Document.mem_nodes.mp hn
  constructor
  · intro parent
    rcases Document.eq_top_or_kid ht with rfl | ⟨s, above, i, kid, rfl, hs, hk⟩
    · rw [Listed.parent_of_top hl] at parent
      cases parent
    · rw [Listed.parent_of_kid hl, Option.some.injEq] at parent
      have same := Document.trail_eq_of_key hs (Document.mem_elements.mp he) parent
      obtain ⟨rfl, rfl⟩ := List.cons.inj same
      exact List.mem_filterMap.mpr ⟨(kid, i), List.mk_mem_zipIdx_iff_getElem?.mpr hk, hl⟩
  · intro kid
    obtain ⟨⟨m, i⟩, hm, hl'⟩ := List.mem_filterMap.mp kid
    exact Listed.parent_of_kid hl'

end Element

namespace NumberedDocument

variable {d : Document} {i : Nat}

/-! ### Up -/

/-- The number of the node above is that of the element there; a fragment has none. -/
theorem position_above {s : Step} {above : Trail} (h : s :: above ∈ d.trails) (hn : above ≠ []) :
    d.numbered.table.positions[Trail.key above]? = (Element.ofTrail? above).bind d.numbered.table.position? := by
  rcases Document.eq_top_or_kid h with top | ⟨u, rest, j, kid, eq, hu, hk⟩
  · exact absurd (List.cons.inj top).2 hn
  · obtain ⟨rfl, rfl⟩ := List.cons.inj eq
    cases hf : Element.ofTrail? (u :: rest) with
    | some f =>
      rw [← Element.trail_of_ofTrail? hf]
      rfl
    | none =>
      rw [Option.bind_none, Option.eq_none_iff_forall_ne_some]
      intro j hj
      obtain ⟨m, hm, key⟩ := List.mem_map.mp (List.mem_of_getElem? ((d.numbers.positions _ j).mp hj))
      obtain ⟨t, ht, hl⟩ := Document.mem_nodes.mp hm
      have same := Document.trail_eq_of_key ht hu ((Listed.key_of_ofTrail? hl).symm.trans key)
      have seen := Listed.view_of_ofTrail? (same ▸ hl)
      -- a text and a comment have no kids, and a fragment is not listed
      obtain ⟨place, node⟩ := u
      cases node with
      | element data kids => cases hf
      | fragment kids => cases seen
      | text s => cases hk
      | comment s => cases hk

/-- The parent of a node is the element right above it. -/
theorem parent_eq {n : Listed} {s : Step} {above : Trail} (h : s :: above ∈ d.trails)
    (hn : Listed.ofTrail? (s :: above) = some n) (hi : d.nodes[i]? = some n) :
    d.numbered.parent (some i) = .ok ((Element.ofTrail? above).bind d.numbered.table.position?) := by
  have found : d.numbered.table.parents[i]? = some (n.parent.bind fun k => d.numbered.table.positions[k]?) := by
    rw [d.numbers.parents_get, hi]
    rfl
  have up : (n.parent.bind fun k => d.numbered.table.positions[k]?) =
      (Element.ofTrail? above).bind d.numbered.table.position? := by
    cases above with
    | nil => rw [Listed.parent_of_top hn]; rfl
    | cons u above => rw [Listed.parent_of_kid hn, Option.bind_some, position_above h (List.cons_ne_nil _ _)]
  rw [parent, found, ← up]

/-! ### Down -/

/-- The children of an element by number are its listed children. -/
theorem children_eq {e : Element} (he : d.numbered.element i = .ok e) :
    ∃ is, d.numbered.children (some i) false = .ok is ∧ d.numbered.children (some i) true =
        .ok (is.filter d.numbered.table.isElement) ∧
      is.map (d.nodes[·]?) = e.listedKids.map some := by
  have inside := mem_of_element he
  have hi := (position_eq_some inside).mpr he
  have bound : i < d.nodes.length := d.numbers.lt_of_position hi
  have kids : d.numbered.table.childrenOf? (some i) =
      some (NodeTable.under d.numbered.table.parents d.nodes.length i) := by
    rw [NodeTable.childrenOf?, d.numbers.children i bound]
    rfl
  refine ⟨NodeTable.under d.numbered.table.parents d.nodes.length i, ?_, ?_, ?_⟩
  · simp only [children, kids, NodeTable.chosen, Bool.not_false, Bool.true_or, List.filter_true]
  · simp only [children, kids, NodeTable.chosen, Bool.not_true, Bool.false_or]
  · have test : ∀ j ∈ List.range d.nodes.length, (d.numbered.table.parents[j]? == some (some i)) =
        d.nodes[j]?.any fun n => n.parent == some e.key := by
      intro j hj
      rw [d.numbers.parents_get]
      obtain ⟨n, hn⟩ : ∃ n, d.nodes[j]? = some n := ⟨_, List.getElem?_eq_getElem (List.mem_range.mp hj)⟩
      rw [hn, Option.map_some, Option.any_some, Option.some_beq_some]
      cases n.parent with
      | none => rfl
      | some k =>
        rw [Option.bind_some, Option.some_beq_some, Bool.eq_iff_iff, beq_iff_eq, beq_iff_eq]
        exact d.numbers.position_eq_iff hi
    rw [NodeTable.under, List.filter_congr test, filter_range_getElem, e.filter_parent inside]

theorem parent_of_element {e : Element} (he : d.numbered.element i = .ok e) :
    d.numbered.parent (some i) = .ok (e.parent?.bind d.numbered.table.position?) := by
  obtain ⟨n, hi, hv⟩ := element_eq_ok.mp he
  obtain ⟨t, ht, hl⟩ := Document.mem_nodes.mp (List.mem_of_getElem? hi)
  obtain rfl := Listed.trail_of_element hl hv
  exact parent_eq ht hl hi

/-- The parent of an element of the document is one too. -/
theorem parent_mem {e f : Element} (he : e ∈ d.elements) (hf : e.parent? = some f) : f ∈ d.elements := by
  have up : f.trail = e.above := Element.trail_of_ofTrail? hf
  rw [Document.mem_elements] at he ⊢
  rcases Document.eq_top_or_kid he with top | ⟨s, above, i, kid, eq, hs, -⟩
  · have : e.above = [] := (List.cons.inj top).2
    rw [Element.parent?, this] at hf
    cases hf
  · rw [up, (List.cons.inj eq).2]
    exact hs

/-- An element has no parent by number exactly if it has none. -/
theorem parent_eq_none {e : Element} (he : d.numbered.element i = .ok e) :
    d.numbered.parent (some i) = .ok none ↔ e.parent? = none := by
  rw [parent_of_element he]
  cases hf : e.parent? with
  | none => simp
  | some f =>
    obtain ⟨j, hj, -⟩ := exists_position (parent_mem (mem_of_element he) hf)
    simp [hj]

/-- The number of the parent is that of the parent. -/
theorem parent_eq_some {e : Element} (he : d.numbered.element i = .ok e) {j : Nat} :
    d.numbered.parent (some i) = .ok (some j) ↔ ∃ f, e.parent? = some f ∧ d.numbered.element j = .ok f := by
  rw [parent_of_element he]
  cases hf : e.parent? with
  | none => simp
  | some f =>
    rw [Option.bind_some, Except.ok.injEq, position_eq_some (parent_mem (mem_of_element he) hf)]
    simp

/-- Numbers of listed nodes read as these nodes. -/
theorem nodes_of_listed {is : List Nat} {ns : List Listed} (h : is.map (d.nodes[·]?) = ns.map some) :
    is.map d.numbered.node = (ns.map (·.view)).map .ok := by
  induction ns generalizing is with
  | nil => rw [List.map_eq_nil_iff.mp h]; rfl
  | cons n ns ih =>
    obtain ⟨j, js, rfl, hj, rest⟩ := List.map_eq_cons_iff.mp h
    rw [List.map_cons, List.map_cons, List.map_cons, ih rest, node_eq_ok.mpr ⟨n, hj, rfl⟩]

/-- The numbers of elements among numbers of listed nodes read as the elements among these. -/
theorem elements_of_listed {is : List Nat} {ns : List Listed} (h : is.map (d.nodes[·]?) = ns.map some) :
    (is.filter d.numbered.table.isElement).map d.numbered.element =
      ((ns.map (·.view)).filterMap NodeView.element?).map .ok := by
  induction ns generalizing is with
  | nil => rw [List.map_eq_nil_iff.mp h]; rfl
  | cons n ns ih =>
    obtain ⟨j, js, rfl, hj, rest⟩ := List.map_eq_cons_iff.mp h
    have kind : d.numbered.table.isElement j = (n.view.nodeKind == .element) := by
      rw [NodeTable.isElement, d.kinds_get, hj]
      rfl
    rw [List.map_cons, List.filterMap_cons]
    cases hv : n.view with
    | element e =>
      rw [List.filter_cons_of_pos (by rw [kind, hv]; rfl), List.map_cons, ih rest]
      exact congrArg (· :: _) (element_eq_ok.mpr ⟨n, hj, hv⟩)
    | text s =>
      rw [List.filter_cons_of_neg (by rw [kind, hv]; exact Bool.false_ne_true), ih rest]
      rfl
    | comment s =>
      rw [List.filter_cons_of_neg (by rw [kind, hv]; exact Bool.false_ne_true), ih rest]
      rfl

/-- The children by number are the children: the same elements, texts and comments, in the same order. -/
theorem nodes_of_children {e : Element} (he : d.numbered.element i = .ok e) :
    ∃ is, d.numbered.children (some i) false = .ok is ∧ is.map d.numbered.node = e.childNodes.map .ok := by
  obtain ⟨is, all, -, listed⟩ := children_eq he
  exact ⟨is, all, e.childNodes_eq ▸ nodes_of_listed listed⟩

/-- The child elements by number are the child elements, in the same order. -/
theorem elements_of_children {e : Element} (he : d.numbered.element i = .ok e) :
    ∃ is, d.numbered.children (some i) true = .ok is ∧ is.map d.numbered.element = e.children.map .ok := by
  obtain ⟨is, -, elements, listed⟩ := children_eq he
  refine ⟨_, elements, ?_⟩
  rw [e.children_eq, e.childNodes_eq]
  exact elements_of_listed listed

/-- The one child of the document is the root. -/
theorem children_document (d : Document) (elementsOnly : Bool) : d.numbered.children none elementsOnly = .ok [0] := by
  have first : d.nodes[0]? = some ⟨[0], none, .element d.root⟩ := rfl
  have notEmpty : d.numbered.table.keys.isEmpty = false := by
    rw [Array.isEmpty_eq_false_iff, ← Array.size_pos_iff, d.numbers.size_keys]
    exact (List.getElem?_eq_some_iff.mp first).1
  have kind : d.numbered.table.isElement 0 = true := by rw [NodeTable.isElement, d.kinds_get, first]; rfl
  simp [children, NodeTable.childrenOf?, NodeTable.chosen, notEmpty, kind]

/-! ### Numbers that are given -/

theorem lt_of_childrenOf {scope : Option Nat} {is : List Nat} (h : d.numbered.table.childrenOf? scope = some is) :
    ∀ i ∈ is, i < d.nodes.length := by
  cases scope with
  | none =>
    have root : 0 < d.nodes.length := Nat.zero_lt_succ _
    cases h
    split_ifs
    · exact fun i hi => absurd hi List.not_mem_nil
    · exact fun i hi => List.mem_singleton.mp hi ▸ root
  | some j =>
    obtain ⟨own, there, rfl⟩ := Option.map_eq_some_iff.mp h
    obtain rfl := d.numbers.children_get there
    exact fun i hi => List.mem_range.mp (List.mem_filter.mp hi).1

/-- The children that are given are nodes of the document. -/
theorem lt_of_children {scope : Option Nat} {elementsOnly : Bool} {is : List Nat}
    (h : d.numbered.children scope elementsOnly = .ok is) : ∀ i ∈ is, i < d.nodes.length := by
  rw [children] at h
  split at h
  next all found =>
    cases h
    exact fun i hi => lt_of_childrenOf found i (List.mem_filter.mp hi).1
  next => cases h

theorem lt_of_parent {j : Nat} (h : d.numbered.parent (some i) = .ok (some j)) : j < d.nodes.length := by
  rw [parent] at h
  split at h
  next up found =>
    cases h
    exact d.numbers.lt_of_parent found
  next => cases h

/-- The parent that is given is an element. -/
theorem exists_element_of_parent {j : Nat} (h : d.numbered.parent (some i) = .ok (some j)) :
    ∃ e, d.numbered.element j = .ok e := by
  obtain ⟨n, hi⟩ : ∃ n, d.nodes[i]? = some n := by
    rw [parent, d.numbers.parents_get] at h
    cases hi : d.nodes[i]? with
    | none =>
      rw [hi] at h
      cases h
    | some n => exact ⟨n, rfl⟩
  obtain ⟨t, ht, hl⟩ := Document.mem_nodes.mp (List.mem_of_getElem? hi)
  rcases Document.eq_top_or_kid ht with rfl | ⟨s, above, place, kid, rfl, hs, -⟩
  · cases (parent_eq ht hl hi).symm.trans h
  · obtain ⟨e, he, position⟩ := Option.bind_eq_some_iff.mp (Except.ok.inj ((parent_eq ht hl hi).symm.trans h))
    have inside : e ∈ d.elements := Document.mem_elements.mpr (Element.trail_of_ofTrail? he ▸ hs)
    exact ⟨e, (position_eq_some inside).mp position⟩

/-- The sibling that is given is a node of the document. -/
theorem lt_of_sibling {scope : Option Nat} {forward elementsOnly : Bool} {j : Nat}
    (h : d.numbered.sibling scope forward elementsOnly = .ok (some j)) : j < d.nodes.length := by
  cases scope with
  | none => cases h
  | some i =>
    rw [sibling, NodeTable.sibling?] at h
    split at h
    next found near =>
      cases h
      split at near
      next => cases near
      next up _ =>
        split at near
        next => cases near
        next siblings all =>
          refine lt_of_childrenOf all j ?_
          have near := Option.some.inj near
          split_ifs at near
          · have wanted := (List.mem_filter.mp (List.mem_of_mem_head? near)).1
            exact (List.dropWhile_sublist _).subset (List.mem_of_mem_drop wanted)
          · have wanted := (List.mem_filter.mp (List.mem_of_getLast? near)).1
            exact (List.takeWhile_sublist _).subset wanted
    next => cases h

theorem element_zero (d : Document) : d.numbered.element 0 = .ok d.root := by
  have first : d.nodes[0]? = some ⟨[0], none, .element d.root⟩ := rfl
  exact element_eq_ok.mpr ⟨_, first, rfl⟩

end NumberedDocument

end Pagewalk
