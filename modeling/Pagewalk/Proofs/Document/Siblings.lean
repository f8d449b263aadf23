import Pagewalk.Proofs.Document.Navigation

/-!
# Siblings by numbers

The nodes that stand in a node, or in the document, are listed once each, in rising order. The sibling after one of them is the
next in the list and the sibling before it the one in front of it, in the list of all and in the list of elements alike. A node
that is in no list, since it stands right in a template, has no siblings.
-/

namespace Pagewalk.NumberedDocument

variable {d : Document} {i j : Nat} {scope : Option Nat} {elementsOnly : Bool} {is front behind : List Nat}

/-! ### Lists of children -/

theorem children_eq_ok : d.numbered.children scope elementsOnly = .ok is ↔
    ∃ all, d.numbered.table.childrenOf? scope = some all ∧ d.numbered.table.chosen elementsOnly all = is := by
  rw [children]
  cases d.numbered.table.childrenOf? scope <;> simp

/-- What is listed under a node are the nodes whose parent it is. -/
theorem under_of_childrenOf (h : d.numbered.table.childrenOf? (some i) = some is) :
    NodeTable.under d.numbered.table.parents d.nodes.length i = is := by
  obtain ⟨own, there, rfl⟩ := Option.map_eq_some_iff.mp h
  rw [d.numbers.children_get there]

theorem childrenOf_document (d : Document) : d.numbered.table.childrenOf? none = some [0] := by
  obtain ⟨all, found, chosen⟩ := children_eq_ok.mp (children_document d false)
  rw [found, ← chosen, NodeTable.chosen]
  simp

theorem exists_childrenOf (within : ∀ i, scope = some i → i < d.nodes.length) :
    ∃ is, d.numbered.table.childrenOf? scope = some is := by
  cases scope with
  | none => exact ⟨_, childrenOf_document d⟩
  | some i =>
    rw [NodeTable.childrenOf?, d.numbers.children i (within i rfl)]
    exact ⟨_, rfl⟩

/-- Children are listed once each. -/
theorem nodup_childrenOf (h : d.numbered.table.childrenOf? scope = some is) : is.Nodup := by
  cases scope with
  | none =>
    rw [childrenOf_document, Option.some.injEq] at h
    exact h ▸ List.nodup_singleton 0
  | some p =>
    rw [← under_of_childrenOf h]
    exact List.nodup_range.filter _

/-- What is listed under a node has this node as its parent; the root has none. -/
theorem parents_of_childrenOf (h : d.numbered.table.childrenOf? scope = some is) (hi : i ∈ is) :
    d.numbered.table.parents[i]? = some scope := by
  cases scope with
  | none =>
    rw [childrenOf_document, Option.some.injEq] at h
    obtain rfl := List.mem_singleton.mp (h ▸ hi)
    have first : d.nodes[0]? = some ⟨[0], none, .element d.root⟩ := rfl
    rw [d.numbers.parents_get, first]
    rfl
  | some p =>
    rw [← under_of_childrenOf h] at hi
    exact d.numbers.mem_under.mp hi

/-! ### Siblings -/

/-- What stands beside a node is the next or the last one that is wanted of those listed behind it or in front of it. -/
theorem sibling_of_childrenOf (forward elementsOnly : Bool)
    (h : d.numbered.table.childrenOf? scope = some (front ++ i :: behind)) :
    d.numbered.sibling (some i) forward elementsOnly = .ok (if forward then
      (d.numbered.table.chosen elementsOnly behind).head? else (d.numbered.table.chosen elementsOnly front).getLast?) := by
  have up := parents_of_childrenOf h (List.mem_append_right _ (List.mem_cons_self ..))
  have apart : ∀ j ∈ front, (j != i) = true := by
    intro j hj
    rw [bne_iff_ne]
    rintro rfl
    exact (List.nodup_append.mp (nodup_childrenOf h)).2.2 j hj j (List.mem_cons_self ..) rfl
  have among : (front ++ i :: behind).contains i = true := by simp
  have before : (front ++ i :: behind).takeWhile (· != i) = front := by
    rw [List.takeWhile_append_of_pos apart, List.takeWhile_cons_of_neg (by simp), List.append_nil]
  have after : ((front ++ i :: behind).dropWhile (· != i)).drop 1 = behind := by
    rw [List.dropWhile_append_of_pos apart, List.dropWhile_cons_of_neg (by simp), List.drop_one, List.tail_cons]
  simp only [sibling, NodeTable.sibling?, up, h, among, before, after, Bool.not_true, Bool.false_eq_true, if_false]

/-- In a list of children, of all or of elements alone, the siblings of a node are its neighbours. -/
theorem sibling_of_children (h : d.numbered.children scope elementsOnly = .ok (front ++ i :: behind)) :
    d.numbered.sibling (some i) true elementsOnly = .ok behind.head? ∧
      d.numbered.sibling (some i) false elementsOnly = .ok front.getLast? := by
  obtain ⟨all, found, chosen⟩ := children_eq_ok.mp h
  -- The neighbours in the chosen list come from the parts of the list of all on the two sides of the node.
  obtain ⟨before, rest, rfl, hbefore, hrest⟩ := List.filter_eq_append_iff.mp chosen
  obtain ⟨skipped, after, rfl, none_wanted, -, hafter⟩ := List.filter_eq_cons_iff.mp hrest
  rw [← List.append_assoc] at found
  refine ⟨(sibling_of_childrenOf true elementsOnly found).trans ?_, (sibling_of_childrenOf false elementsOnly found).trans ?_⟩
  · rw [if_pos rfl, NodeTable.chosen, hafter]
  · have skips : skipped.filter (fun i => !elementsOnly || d.numbered.table.isElement i) = [] :=
      List.filter_eq_nil_iff.mpr none_wanted
    rw [if_neg Bool.false_ne_true, NodeTable.chosen, List.filter_append, hbefore, skips, List.append_nil]

/-- A node is listed among children, or it has no siblings. -/
theorem listed_or_alone (within : i < d.nodes.length) :
    (∃ scope front behind, d.numbered.children scope false = .ok (front ++ i :: behind)) ∨
      ∀ forward elementsOnly, d.numbered.sibling (some i) forward elementsOnly = .ok none := by
  have bound : i < d.numbered.table.parents.size := d.numbers.size_parents ▸ within
  obtain ⟨scope, up⟩ : ∃ scope, d.numbered.table.parents[i]? = some scope := ⟨_, Array.getElem?_eq_getElem bound⟩
  obtain ⟨is, all⟩ : ∃ is, d.numbered.table.childrenOf? scope = some is :=
    exists_childrenOf fun p same => d.numbers.lt_of_parent (same ▸ up)
  by_cases among : i ∈ is
  · obtain ⟨front, behind, rfl⟩ := List.append_of_mem among
    exact .inl ⟨scope, front, behind, children_eq_ok.mpr ⟨_, all, by simp [NodeTable.chosen]⟩⟩
  · refine .inr fun forward elementsOnly => ?_
    simp [sibling, NodeTable.sibling?, up, all, among]

theorem exists_sibling (forward elementsOnly : Bool) (within : ∀ i, scope = some i → i < d.nodes.length) :
    ∃ found, d.numbered.sibling scope forward elementsOnly = .ok found := by
  cases scope with
  | none => exact ⟨none, rfl⟩
  | some i =>
    rcases listed_or_alone (within i rfl) with ⟨scope, front, behind, listed⟩ | alone
    · obtain ⟨all, found, chosen⟩ := children_eq_ok.mp listed
      have every : all = front ++ i :: behind := by simpa [NodeTable.chosen] using chosen
      exact ⟨_, sibling_of_childrenOf forward elementsOnly (every ▸ found)⟩
    · exact ⟨none, alone forward elementsOnly⟩

/-- The sibling after a node is another one just if the sibling before the other one is the node. -/
theorem sibling_comm (hi : i < d.nodes.length) (hj : j < d.nodes.length) :
    d.numbered.sibling (some i) true false = .ok (some j) ↔ d.numbered.sibling (some j) false false = .ok (some i) := by
  constructor
  · intro next
    rcases listed_or_alone hi with ⟨scope, front, behind, listed⟩ | alone
    · obtain ⟨rest, rfl⟩ := List.head?_eq_some_iff.mp (Except.ok.inj ((sibling_of_children listed).1.symm.trans next))
      have listed' : d.numbered.children scope false = .ok ((front ++ [i]) ++ j :: rest) := by
        rw [listed, List.append_assoc, List.singleton_append]
      rw [(sibling_of_children listed').2, List.getLast?_concat]
    · rw [alone] at next
      cases next
  · intro previous
    rcases listed_or_alone hj with ⟨scope, front, behind, listed⟩ | alone
    · obtain ⟨rest, rfl⟩ := List.getLast?_eq_some_iff.mp
        (Except.ok.inj ((sibling_of_children listed).2.symm.trans previous))
      have listed' : d.numbered.children scope false = .ok (rest ++ i :: j :: behind) := by
        rw [listed, List.append_assoc, List.singleton_append]
      rw [(sibling_of_children listed').1, List.head?_cons]
    · rw [alone] at previous
      cases previous

end Pagewalk.NumberedDocument
