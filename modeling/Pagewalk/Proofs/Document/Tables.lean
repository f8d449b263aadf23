import Pagewalk.Proofs.Document.Numbers

/-!
# The tables of a document

The tables that number the nodes of a document are filled in one pass over its listing, and each node is given as its
parent what the map of numbers has for the node above it by then. When the pass is over, the tables agree with the tree
and with each other. Every element, text and comment has one number, and the numbers go in document order. The parent
of a node is the node right above it, unless this is a fragment, which has no number; a node comes after its parent, and
the lists of children say the same as the parents.
-/

namespace Pagewalk

namespace Document

variable {d : Document}

/-! ### Listed nodes in the tree -/

/-- In the tree of a document the node with the one key has the node with the other key as a child. -/
def IsParent (d : Document) (up down : Key) : Prop :=
  ∃ s above i kid, d.Descends (s :: above) ∧ s.node.kids[i]? = some kid ∧ Trail.key (s :: above) = up ∧ i :: up = down

/-- The parent of a listed node is the node whose child it is. -/
theorem parent_eq_some_iff {n : Listed} (h : n ∈ d.nodes) {k : Key} : n.parent = some k ↔ d.IsParent k n.key := by
  obtain ⟨t, ht, hl⟩ := mem_nodes.mp h
  rw [Listed.key_of_ofTrail? hl]
  rcases eq_top_or_kid ht with rfl | ⟨s, above, i, kid, rfl, hs, hk⟩
  · -- the key of the root is a single place, and the key of a child is longer
    refine iff_of_false (by simp [Listed.parent_of_top hl]) ?_
    rintro ⟨s, above, i, kid, -, -, rfl, same⟩
    cases (List.cons.inj same).2
  · rw [Listed.parent_of_kid hl, Option.some.injEq, Trail.key_cons]
    constructor
    · rintro rfl
      exact ⟨s, above, i, kid, mem_trails_iff.mp hs, hk, rfl, rfl⟩
    · rintro ⟨_, _, _, _, -, -, -, same⟩
      exact (List.cons.inj same).2.symm

/-- Of the listed nodes the root alone has no parent. -/
theorem parent_eq_none_iff {n : Listed} (h : n ∈ d.nodes) : n.parent = none ↔ n.view = .element d.root := by
  obtain ⟨t, ht, hl⟩ := mem_nodes.mp h
  rcases eq_top_or_kid ht with rfl | ⟨s, above, i, kid, rfl, hs, hk⟩
  · exact iff_of_true (Listed.parent_of_top hl) (Option.some.inj (Listed.view_of_ofTrail? hl)).symm
  · refine iff_of_false (by simp [Listed.parent_of_kid hl]) fun hv => ?_
    cases (List.cons.inj (Listed.trail_of_element hl hv)).2

/-- The keys of a document are those of the elements, texts and comments in its tree. -/
theorem mem_keys_iff {k : Key} : k ∈ d.nodes.map (·.key) ↔
    ∃ t, d.Descends t ∧ (NodeView.ofTrail? t).isSome ∧ Trail.key t = k := by
  rw [List.mem_map]
  constructor
  · rintro ⟨n, hn, rfl⟩
    obtain ⟨t, ht, hl⟩ := mem_nodes.mp hn
    refine ⟨t, mem_trails_iff.mp ht, ?_, (Listed.key_of_ofTrail? hl).symm⟩
    rw [Listed.view_of_ofTrail? hl]
    rfl
  · rintro ⟨t, way, seen, rfl⟩
    obtain ⟨view, hv⟩ := Option.isSome_iff_exists.mp seen
    have hl : Listed.ofTrail? t = some _ := Option.map_eq_some_iff.mpr ⟨view, hv, rfl⟩
    exact ⟨_, mem_nodes.mpr ⟨t, mem_trails_iff.mpr way, hl⟩, Listed.key_of_ofTrail? hl⟩

end Document

namespace NodeTable

/-! ### The tables -/

/-- The tables agree with the tree of a document and with each other. -/
structure Indexes (t : NodeTable) (d : Document) : Prop where
  /-- The keys are those of the listed nodes, in the order of the listing. -/
  keys : t.keys.toList = d.nodes.map (·.key)
  /-- All elements, texts and comments of the tree are there, and nothing else is. -/
  mem_keys : ∀ k, k ∈ t.keys ↔ ∃ way, d.Descends way ∧ (NodeView.ofTrail? way).isSome ∧ Trail.key way = k
  preorder : t.keys.toList.Pairwise Key.Before
  nodup : t.keys.toList.Nodup
  kinds : t.kinds.toList = d.nodes.map (·.view.nodeKind)
  /-- Numbers and keys lead to each other. -/
  positions : ∀ (k : Key) (i : Nat), t.positions[k]? = some i ↔ t.keys[i]? = some k
  /-- The parent by number is the parent in the tree, if that has a number. -/
  parents : ∀ (i p : Nat) (l : Key), t.keys[i]? = some l →
    (t.parents[i]? = some (some p) ↔ ∃ k, t.keys[p]? = some k ∧ d.IsParent k l)
  parent_lt : ∀ i p : Nat, t.parents[i]? = some (some p) → p < i
  /-- A node is listed among the children of a node exactly if this is its parent. -/
  children : ∀ i p : Nat, (∃ is, t.children[p]? = some is ∧ i ∈ is) ↔ t.parents[i]? = some (some p)
  rising : ∀ is ∈ t.children, is.toList.Pairwise (· < ·)
  /-- Each table has an entry for each node. -/
  sizes : t.kinds.size = t.size ∧ t.parents.size = t.size ∧ t.children.size = t.size ∧ t.positions.size = t.size
  parent_within : ∀ p, some p ∈ t.parents → p < t.size
  child_within : ∀ is ∈ t.children, ∀ i ∈ is, i < t.size
  position_within : ∀ (k : Key) (i : Nat), t.positions[k]? = some i → i < t.size

namespace Numbers

section

variable {ns : List Listed} {t : NodeTable} (N : Numbers ns t)

include N

theorem positions_iff (k : Key) (i : Nat) : t.positions[k]? = some i ↔ t.keys[i]? = some k := by
  rw [N.positions, ← N.keys, Array.getElem?_toList]

theorem size_positions (once : (ns.map (·.key)).Nodup) : t.positions.size = ns.length := by
  have same : t.positions.keys.Perm (ns.map (·.key)) := by
    refine (List.perm_ext_iff_of_nodup Std.HashMap.nodup_keys once).mpr fun k => ?_
    rw [Std.HashMap.mem_keys, Std.HashMap.mem_iff_isSome_getElem?, Option.isSome_iff_exists, List.mem_iff_getElem?]
    exact exists_congr fun i => N.positions k i
  rw [← Std.HashMap.length_keys, same.length_eq, List.length_map]

theorem mem_children_iff (i p : Nat) :
    (∃ is, t.children[p]? = some is ∧ i ∈ is) ↔ t.parents[i]? = some (some p) := by
  rw [← N.mem_under]
  constructor
  · rintro ⟨is, hp, hi⟩
    obtain rfl := N.children_get hp
    exact List.mem_toArray.mp hi
  · intro hi
    exact ⟨_, N.children p (N.lt_of_parent (N.mem_under.mp hi)), List.mem_toArray.mpr hi⟩

theorem exists_of_mem_children {is : Array Nat} (h : is ∈ t.children) :
    ∃ p, is = (under t.parents ns.length p).toArray := by
  obtain ⟨p, hp⟩ := Array.mem_iff_getElem?.mp h
  exact ⟨p, N.children_get hp⟩

end

section

variable {d : Document} {t : NodeTable} (N : Numbers d.nodes t)

include N

theorem parents_iff {i p : Nat} {l : Key} (hl : t.keys[i]? = some l) :
    t.parents[i]? = some (some p) ↔ ∃ k, t.keys[p]? = some k ∧ d.IsParent k l := by
  rw [N.keys_get] at hl
  obtain ⟨n, hn, rfl⟩ := Option.map_eq_some_iff.mp hl
  rw [N.parents_get, hn, Option.map_some, Option.some.injEq, Option.bind_eq_some_iff]
  refine exists_congr fun k => ?_
  rw [N.positions_iff, Document.parent_eq_some_iff (List.mem_of_getElem? hn), and_comm]

/-- A node has its number after its parent. -/
theorem parent_lt {i p : Nat} (h : t.parents[i]? = some (some p)) : p < i := by
  rw [N.parents_get] at h
  obtain ⟨n, hn, hp⟩ := Option.map_eq_some_iff.mp h
  obtain ⟨k, hk, found⟩ := Option.bind_eq_some_iff.mp hp
  rw [N.positions_iff, N.keys_get] at found
  obtain ⟨m, hm, rfl⟩ := Option.map_eq_some_iff.mp found
  obtain ⟨hi, rfl⟩ := List.getElem?_eq_some_iff.mp hn
  obtain ⟨bound, rfl⟩ := List.getElem?_eq_some_iff.mp hm
  -- no node is listed before the one above it
  rcases Nat.lt_trichotomy p i with lt | rfl | gt
  · exact lt
  · exact absurd hk (Document.parent_ne_key (List.getElem_mem hi))
  · exact absurd hk (List.pairwise_iff_getElem.mp d.pairwise_nodes i p hi bound gt).2

end

end Numbers

/-- When the listing of a document has been gone through, the tables agree with the tree and with each other: keys in
document order, numbers and keys that lead to each other, parents before their children. Of the listed nodes the root
alone has no parent. -/
theorem indexes_ofDocument (d : Document) :
    (ofDocument d).Indexes d ∧ ∀ n ∈ d.nodes, (n.parent = none ↔ n.view = .element d.root) := by
  have N : Numbers d.nodes (ofDocument d) := d.numbers
  have size : (ofDocument d).size = d.nodes.length := N.size_keys
  refine ⟨?_, fun n hn => Document.parent_eq_none_iff hn⟩
  constructor
  case keys => exact N.keys
  case mem_keys =>
    intro k
    rw [← Array.mem_toList_iff, N.keys, Document.mem_keys_iff]
  case preorder => exact N.keys ▸ List.pairwise_map.mpr d.rising_nodes
  case nodup => exact N.keys ▸ d.nodup_nodes
  case kinds => exact N.kinds
  case positions => exact N.positions_iff
  case parents => exact fun i p l hl => N.parents_iff hl
  case parent_lt => exact fun i p up => N.parent_lt up
  case children => exact N.mem_children_iff
  case rising =>
    intro is his
    obtain ⟨p, rfl⟩ := N.exists_of_mem_children his
    exact List.pairwise_lt_range.filter _
  case sizes =>
    rw [size]
    refine ⟨?_, N.size_parents, N.children_size, N.size_positions d.nodup_nodes⟩
    rw [← Array.length_toList, N.kinds, List.length_map]
  case parent_within =>
    intro p hp
    obtain ⟨i, hi⟩ := Array.mem_iff_getElem?.mp hp
    exact size ▸ N.lt_of_parent hi
  case child_within =>
    intro is his i hi
    obtain ⟨p, rfl⟩ := N.exists_of_mem_children his
    exact size ▸ List.mem_range.mp (List.mem_filter.mp (List.mem_toArray.mp hi)).1
  case position_within => exact fun k i h => size ▸ N.lt_of_position h

end NodeTable

end Pagewalk
