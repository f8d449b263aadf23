import Mathlib.Data.List.Induction
import Pagewalk.Document.Numbered
import Pagewalk.Proofs.Document.Listing

/-!
# The numbers of nodes

The table of a document gives the node that is listed in a place the number of this place. Keys and numbers lead to
each other; a node has as its parent the number of the node above it, if that is listed, and as its children the
numbers of the nodes whose parent it is, in rising order.
-/

namespace Pagewalk

namespace NodeTable

/-- The numbers below a bound of the nodes with this parent, in rising order. -/
def under (parents : Array (Option Nat)) (bound i : Nat) : List Nat :=
  (List.range bound).filter fun j => parents[j]? == some (some i)

/-- A table has some listed nodes under the numbers of their places. -/
structure Numbers (ns : List Listed) (t : NodeTable) : Prop where
  keys : t.keys.toList = ns.map (·.key)
  kinds : t.kinds.toList = ns.map (·.view.nodeKind)
  positions : ∀ (k : Key) (i : Nat), t.positions[k]? = some i ↔ (ns.map (·.key))[i]? = some k
  parents : t.parents.toList = ns.map fun n => n.parent.bind fun k => t.positions[k]?
  children_size : t.children.size = ns.length
  children : ∀ i < ns.length, t.children[i]? = some (under t.parents ns.length i).toArray

namespace Numbers

variable {ns : List Listed} {t : NodeTable} (N : Numbers ns t)

include N

theorem size_keys : t.keys.size = ns.length := by
  rw [← Array.length_toList, N.keys, List.length_map]

theorem size_parents : t.parents.size = ns.length := by
  rw [← Array.length_toList, N.parents, List.length_map]

theorem keys_get (i : Nat) : t.keys[i]? = ns[i]?.map (·.key) := by
  rw [← Array.getElem?_toList, N.keys, List.getElem?_map]

theorem kinds_get (i : Nat) : t.kinds[i]? = ns[i]?.map (·.view.nodeKind) := by
  rw [← Array.getElem?_toList, N.kinds, List.getElem?_map]

theorem parents_get (i : Nat) : t.parents[i]? = ns[i]?.map fun n => n.parent.bind fun k => t.positions[k]? := by
  rw [← Array.getElem?_toList, N.parents, List.getElem?_map]

theorem position_of_get {n : Listed} {i : Nat} (h : ns[i]? = some n) : t.positions[n.key]? = some i := by
  rw [N.positions, List.getElem?_map, h]
  rfl

theorem lt_of_position {k : Key} {i : Nat} (h : t.positions[k]? = some i) : i < ns.length := by
  have := (List.getElem?_eq_some_iff.mp ((N.positions k i).mp h)).1
  rwa [List.length_map] at this

theorem position_eq_iff {k l : Key} {i : Nat} (h : t.positions[l]? = some i) :
    t.positions[k]? = some i ↔ k = l := by
  refine ⟨fun hk => ?_, fun same => same ▸ h⟩
  exact Option.some.inj (((N.positions k i).mp hk).symm.trans ((N.positions l i).mp h))

theorem lt_of_parent {i j : Nat} (h : t.parents[j]? = some (some i)) : i < ns.length := by
  rw [N.parents_get] at h
  obtain ⟨n, -, hp⟩ := Option.map_eq_some_iff.mp h
  obtain ⟨k, -, hk⟩ := Option.bind_eq_some_iff.mp hp
  exact N.lt_of_position hk

/-- What is listed as the children of a node are the nodes under it. -/
theorem children_get {i : Nat} {is : Array Nat} (h : t.children[i]? = some is) :
    is = (under t.parents ns.length i).toArray := by
  have bound : i < ns.length := N.children_size ▸ (Array.getElem?_eq_some_iff.mp h).1
  exact Option.some.inj (h.symm.trans (N.children i bound))

theorem mem_under {i j : Nat} : j ∈ under t.parents ns.length i ↔ t.parents[j]? = some (some i) := by
  rw [under, List.mem_filter, List.mem_range, beq_iff_eq, and_iff_right_iff_imp]
  intro up
  exact N.size_parents ▸ (Array.getElem?_eq_some_iff.mp up).1

/-- The children after one node more: it stands last among those of its parent, and has none yet. -/
theorem under_push (p : Option Nat) (i : Nat) :
    under (t.parents.push p) (ns.length + 1) i =
      under t.parents ns.length i ++ if p = some i then [ns.length] else [] := by
  have old : ∀ j ∈ List.range ns.length,
      ((t.parents.push p)[j]? == some (some i)) = (t.parents[j]? == some (some i)) := by
    intro j hj
    rw [Array.getElem?_push, if_neg]
    have := List.mem_range.mp hj
    rw [N.size_parents]
    omega
  rw [under, List.range_succ, List.filter_append, List.filter_congr old]
  congr 1
  rw [List.filter_singleton, Array.getElem?_push, if_pos N.size_parents.symm]
  by_cases h : p = some i
  · simp [h]
  · rw [if_neg h, Option.some_beq_some, beq_eq_false_iff_ne.mpr h]
    rfl

theorem children_push (parent : Option Nat) (hp : ∀ p, parent = some p → p < ns.length) :
    ∀ i < ns.length + 1,
      ((match parent with
        | none => t.children
        | some p => t.children.modify p (·.push ns.length)).push #[])[i]? =
      some (under (t.parents.push parent) (ns.length + 1) i).toArray := by
  intro i hi
  have size : (match parent with
      | none => t.children
      | some p => t.children.modify p (·.push ns.length)).size = ns.length := by
    cases parent with
    | none => exact N.children_size
    | some p => exact Array.size_modify.trans N.children_size
  rw [Array.getElem?_push, size, N.under_push]
  by_cases last : i = ns.length
  · -- nothing can have named the newest node as its parent
    have empty : under t.parents ns.length i = [] := by
      rw [under, List.filter_eq_nil_iff]
      intro j _ same
      have := N.lt_of_parent (beq_iff_eq.mp same)
      omega
    have not_own : parent ≠ some i := fun same => by
      have := hp i same
      omega
    rw [if_pos last, empty, if_neg not_own]
    rfl
  · have lt : i < ns.length := by omega
    rw [if_neg last]
    cases parent with
    | none => rw [if_neg (by simp), List.append_nil, N.children i lt]
    | some p =>
      rw [Array.getElem?_modify, N.children i lt]
      by_cases same : p = i
      · rw [if_pos same, if_pos (congrArg some same)]
        simp
      · rw [if_neg same, if_neg (fun h => same (Option.some.inj h)), List.append_nil]

/-- One node more keeps the numbers of the others, if it is new and not above any of them. -/
theorem push {n : Listed} (new : ∀ m ∈ ns, m.key ≠ n.key ∧ m.parent ≠ some n.key) (other : n.parent ≠ some n.key) :
    Numbers (ns ++ [n]) (t.push n) := by
  have found (k : Key) : (t.push n).positions[k]? = if n.key = k then some ns.length else t.positions[k]? := by
    rw [NodeTable.push, Std.HashMap.getElem?_insert, N.size_keys]
    simp only [beq_iff_eq]
  have parent_lt : ∀ p, (n.parent.bind fun k => t.positions[k]?) = some p → p < ns.length := by
    intro p hp
    obtain ⟨k, -, hk⟩ := Option.bind_eq_some_iff.mp hp
    exact N.lt_of_position hk
  -- In the order of the fields: keys, kinds, positions, parents, and the lists of children.
  refine ⟨?_, ?_, ?_, ?_, ?_, ?_⟩
  · rw [NodeTable.push, Array.toList_push, N.keys, List.map_append]
    rfl
  · rw [NodeTable.push, Array.toList_push, N.kinds, List.map_append]
    rfl
  · intro k i
    rw [found, List.map_append, List.map_singleton, List.getElem?_append, List.length_map]
    by_cases same : n.key = k
    · have unknown : (ns.map (·.key))[i]? ≠ some k := by
        intro h
        obtain ⟨m, hm, eq⟩ := List.mem_map.mp (List.mem_of_getElem? h)
        exact (new m hm).1 (eq.trans same.symm)
      rw [if_pos same, Option.some.injEq]
      split
      · exact iff_of_false (by omega) unknown
      · rw [List.getElem?_singleton]
        split <;> simp [same] <;> omega
    · rw [if_neg same, N.positions]
      split
      · rfl
      · refine iff_of_false (fun h => ?_) fun h => ?_
        · have := (List.getElem?_eq_some_iff.mp h).1
          rw [List.length_map] at this
          omega
        · exact same (List.mem_singleton.mp (List.mem_of_getElem? h)).symm
  · have kept (m : Listed) (away : m.parent ≠ some n.key) :
        (m.parent.bind fun k => (t.push n).positions[k]?) = m.parent.bind fun k => t.positions[k]? := by
      cases hm : m.parent with
      | none => rfl
      | some k =>
        rw [Option.bind_some, Option.bind_some, found, if_neg]
        rintro rfl
        exact away hm
    rw [List.map_append, List.map_singleton, kept n other, List.map_congr_left fun m hm => kept m (new m hm).2]
    rw [NodeTable.push, Array.toList_push, N.parents]
  · rw [List.length_append, List.length_singleton, ← N.children_size, NodeTable.push, Array.size_push]
    split <;> simp
  · rw [List.length_append, List.length_singleton, NodeTable.push, N.size_keys]
    exact N.children_push _ parent_lt

end Numbers

theorem numbers_empty : Numbers [] empty where
  keys := rfl
  kinds := rfl
  positions k i := by simp [empty]
  parents := rfl
  children_size := rfl
  children i hi := absurd hi (Nat.not_lt_zero i)

/-- The table of listed nodes, of which each is new and listed after the one above it, has them under the numbers of
their places. -/
theorem numbers_foldl {ns : List Listed} (ordered : ns.Pairwise fun m n => m.key ≠ n.key ∧ m.parent ≠ some n.key)
    (other : ∀ n ∈ ns, n.parent ≠ some n.key) : Numbers ns (ns.foldl NodeTable.push empty) := by
  induction ns using List.reverseRecOn with
  | nil => exact numbers_empty
  | append_singleton ns n ih =>
    obtain ⟨before, -, new⟩ := List.pairwise_append.mp ordered
    rw [List.foldl_concat]
    refine (ih before fun m hm => other m (List.mem_append_left _ hm)).push ?_ ?_
    · exact fun m hm => new m hm n (List.mem_singleton_self n)
    · exact other n (List.mem_append_right _ (List.mem_singleton_self n))

end NodeTable

namespace Document

/-- The table of a document has its listed nodes under the numbers of their places. -/
theorem numbers (d : Document) : NodeTable.Numbers d.nodes d.numbered.table :=
  NodeTable.numbers_foldl d.pairwise_nodes fun _ => parent_ne_key

theorem keys_get (d : Document) (i : Nat) : d.numbered.table.keys[i]? = d.nodes[i]?.map (·.key) := d.numbers.keys_get i

theorem kinds_get (d : Document) (i : Nat) : d.numbered.table.kinds[i]? = d.nodes[i]?.map (·.view.nodeKind) :=
  d.numbers.kinds_get i

end Document

/-! ### Reading by number -/

namespace NumberedDocument

variable {d : Document} {i : Nat}

/-- A number is that of the node listed in its place. -/
theorem node_eq (d : Document) (i : Nat) :
    d.numbered.node i = (d.nodes[i]?.map (·.view)).elim (.error (.noNode i)) .ok := by
  have led : (d.nodes[i]?.map (·.key)).bind d.numbered.document.node? = d.nodes[i]?.map (·.view) := by
    cases h : d.nodes[i]? with
    | none => rfl
    | some n => exact Document.node?_of_mem (List.mem_of_getElem? h)
  rw [node, d.keys_get, led]
  cases d.nodes[i]? <;> rfl

theorem node_eq_ok {v : NodeView} : d.numbered.node i = .ok v ↔ ∃ n, d.nodes[i]? = some n ∧ n.view = v := by
  rw [node_eq]
  cases d.nodes[i]? with
  | none => simp
  | some n => simp

theorem element_eq_ok {e : Element} :
    d.numbered.element i = .ok e ↔ ∃ n, d.nodes[i]? = some n ∧ n.view = .element e := by
  rw [← node_eq_ok, element]
  cases d.numbered.node i with
  | error f => simp
  | ok v => cases v <;> simp

theorem mem_of_element {e : Element} (h : d.numbered.element i = .ok e) : e ∈ d.elements := by
  obtain ⟨n, hn, hv⟩ := element_eq_ok.mp h
  exact Document.mem_elements_of_node (List.mem_of_getElem? hn) hv

/-- The number of an element of the document is the one that gives it back. -/
theorem position_eq_some {e : Element} (he : e ∈ d.elements) :
    d.numbered.table.position? e = some i ↔ d.numbered.element i = .ok e := by
  obtain ⟨n, hn, hv⟩ := Document.exists_node he
  refine (d.numbers.positions e.key i).trans ?_
  rw [element_eq_ok, List.getElem?_map, Option.map_eq_some_iff]
  refine exists_congr fun m => and_congr_right fun hm => ⟨fun same => ?_, fun same => ?_⟩
  · rw [Document.node_eq_of_key (List.mem_of_getElem? hm) hn (same.trans (Document.key_of_element hn hv).symm), hv]
  · exact Document.key_of_element (List.mem_of_getElem? hm) same

theorem element_inj {e : Element} {j : Nat} (hi : d.numbered.element i = .ok e) (hj : d.numbered.element j = .ok e) :
    i = j := by
  have he := mem_of_element hi
  rw [← position_eq_some he] at hi hj
  exact Option.some.inj (hi.symm.trans hj)

theorem exists_position {e : Element} (he : e ∈ d.elements) :
    ∃ i, d.numbered.table.position? e = some i ∧ d.numbered.element i = .ok e := by
  obtain ⟨n, hn, hv⟩ := Document.exists_node he
  obtain ⟨i, hi⟩ := List.mem_iff_getElem?.mp hn
  have found := element_eq_ok.mpr ⟨n, hi, hv⟩
  exact ⟨i, (position_eq_some he).mpr found, found⟩

end NumberedDocument

end Pagewalk
