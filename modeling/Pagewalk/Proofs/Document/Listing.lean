import Pagewalk.Proofs.Document.Trails

/-!
# The listing of a document

The trails of a document are those that lead from the root to a child each time. What is listed below a node of the
document is listed in the document, and a key of the listing leads back to its node. In document order a node comes
before what is below it, so a node is listed after the one above it.
-/

namespace Pagewalk

/-! ### Ways down -/

theorem Node.self_mem_trails (above : Trail) (place : Nat) (n : Node) :
    ⟨place, n⟩ :: above ∈ Node.trails above place n := by
  cases n <;> exact List.mem_cons_self

mutual

/-- What is listed from a node is listed, in the same order, wherever the node is listed. -/
theorem Node.trails_sublist {above higher : Trail} {place : Nat} {n : Node} {s : Step}
    (h : s :: higher ∈ Node.trails above place n) :
    (Node.trails higher s.place s.node).Sublist (Node.trails above place n) := by
  have within (m : Node) (kids : List Node) (here : Trail) (eq : here = ⟨place, m⟩ :: above)
      (opened : Node.trails above place m = here :: Node.trailsOfAll here 0 kids)
      (h : s :: higher ∈ here :: Node.trailsOfAll here 0 kids)
      (rest : s :: higher ∈ Node.trailsOfAll here 0 kids →
        (Node.trails higher s.place s.node).Sublist (Node.trailsOfAll here 0 kids)) :
      (Node.trails higher s.place s.node).Sublist (Node.trails above place m) := by
    rcases List.mem_cons.mp h with top | lower
    · obtain ⟨rfl, rfl⟩ := List.cons.inj (top.trans eq)
      exact List.Sublist.refl _
    · rw [opened]
      exact (rest lower).cons _
  cases n with
  | element data kids => exact within _ kids _ rfl rfl h Node.trails_sublistOfAll
  | fragment kids => exact within _ kids _ rfl rfl h Node.trails_sublistOfAll
  | text t =>
    obtain ⟨rfl, rfl⟩ := List.cons.inj (List.mem_singleton.mp h)
    exact List.Sublist.refl _
  | comment t =>
    obtain ⟨rfl, rfl⟩ := List.cons.inj (List.mem_singleton.mp h)
    exact List.Sublist.refl _

theorem Node.trails_sublistOfAll {above higher : Trail} {place : Nat} {ns : List Node} {s : Step}
    (h : s :: higher ∈ Node.trailsOfAll above place ns) :
    (Node.trails higher s.place s.node).Sublist (Node.trailsOfAll above place ns) := by
  cases ns with
  | nil => cases h
  | cons n ns =>
    rw [Node.trailsOfAll] at h ⊢
    rcases List.mem_append.mp h with h | h
    · exact (Node.trails_sublist h).trans (List.sublist_append_left _ _)
    · exact (Node.trails_sublistOfAll h).trans (List.sublist_append_right _ _)

end

theorem Node.kids_sublist (above : Trail) (place : Nat) (ns : List Node) :
    ((ns.zipIdx place).map fun (n, i) => (⟨i, n⟩ :: above : Trail)).Sublist (Node.trailsOfAll above place ns) := by
  induction ns generalizing place with
  | nil => exact .slnil
  | cons n ns ih =>
    rw [List.zipIdx_cons, List.map_cons, Node.trailsOfAll, ← List.singleton_append]
    exact (List.singleton_sublist.mpr (Node.self_mem_trails above place n)).append (ih (place + 1))

/-- The listing of the kids of a node is part of the listing of the node. -/
theorem Node.trailsOfAll_sublist (above : Trail) (place : Nat) (n : Node) :
    (Node.trailsOfAll (⟨place, n⟩ :: above) 0 n.kids).Sublist (Node.trails above place n) := by
  cases n with
  | element data kids => exact List.sublist_cons_self _ _
  | fragment kids => exact List.sublist_cons_self _ _
  | text s => exact List.nil_sublist _
  | comment s => exact List.nil_sublist _

mutual

/-- What holds of a trail and goes over from a node to its kids holds of all that is listed from there. -/
theorem Node.forall_trails {P : Trail → Prop}
    (down : ∀ s above i kid, P (s :: above) → s.node.kids[i]? = some kid → P (⟨i, kid⟩ :: s :: above))
    {above : Trail} {place : Nat} {n : Node} (top : P (⟨place, n⟩ :: above)) : ∀ t ∈ Node.trails above place n, P t := by
  intro t ht
  cases n with
  | element data kids =>
    rcases List.mem_cons.mp ht with rfl | ht
    · exact top
    · exact Node.forall_trailsOfAll down (fun i kid hi => down _ _ _ _ top (by rw [Nat.zero_add]; exact hi)) t ht
  | fragment kids =>
    rcases List.mem_cons.mp ht with rfl | ht
    · exact top
    · exact Node.forall_trailsOfAll down (fun i kid hi => down _ _ _ _ top (by rw [Nat.zero_add]; exact hi)) t ht
  | text s => exact List.mem_singleton.mp ht ▸ top
  | comment s => exact List.mem_singleton.mp ht ▸ top

theorem Node.forall_trailsOfAll {P : Trail → Prop}
    (down : ∀ s above i kid, P (s :: above) → s.node.kids[i]? = some kid → P (⟨i, kid⟩ :: s :: above))
    {above : Trail} {place : Nat} {ns : List Node} (top : ∀ i kid, ns[i]? = some kid → P (⟨place + i, kid⟩ :: above)) :
    ∀ t ∈ Node.trailsOfAll above place ns, P t := by
  intro t ht
  cases ns with
  | nil => cases ht
  | cons n ns =>
    rcases List.mem_append.mp ht with ht | ht
    · exact Node.forall_trails down (top 0 n rfl) t ht
    · refine Node.forall_trailsOfAll down (fun i kid hi => ?_) t ht
      rw [Nat.add_assoc, Nat.add_comm 1 i]
      exact top (i + 1) kid hi

end

namespace Document

variable {d : Document}

/-- The root with its place. -/
def top (d : Document) : Step := ⟨0, d.root.node⟩

theorem top_mem_trails (d : Document) : [d.top] ∈ d.trails := Node.self_mem_trails [] 0 d.root.node

theorem kid_mem_trails {s : Step} {above : Trail} {i : Nat} {kid : Node} (h : s :: above ∈ d.trails)
    (hk : s.node.kids[i]? = some kid) : ⟨i, kid⟩ :: s :: above ∈ d.trails := by
  have listed : ((kid, i) : Node × Nat) ∈ s.node.kids.zipIdx := List.mk_mem_zipIdx_iff_getElem?.mpr hk
  have among := (Node.kids_sublist (s :: above) 0 s.node.kids).subset (List.mem_map_of_mem listed)
  exact (Node.trails_sublist h).subset ((Node.trailsOfAll_sublist above s.place s.node).subset among)

/-- A trail leads from the root of a document down to a child each time. -/
inductive Descends (d : Document) : Trail → Prop where
  | top : Descends d [d.top]
  | down {s : Step} {above : Trail} {i : Nat} {kid : Node} (way : Descends d (s :: above))
      (child : s.node.kids[i]? = some kid) : Descends d (⟨i, kid⟩ :: s :: above)

/-- A document lists the trails that descend from its root. -/
theorem mem_trails_iff {t : Trail} : t ∈ d.trails ↔ d.Descends t := by
  constructor
  · intro h
    exact Node.forall_trails (fun _ _ _ _ => .down) .top t h
  · intro way
    induction way with
    | top => exact d.top_mem_trails
    | down _ child ih => exact kid_mem_trails ih child

/-- A trail of the document is that of the root, or leads from a node of the document to a kid. -/
theorem eq_top_or_kid {t : Trail} (h : t ∈ d.trails) :
    t = [d.top] ∨ ∃ s above i kid, t = ⟨i, kid⟩ :: s :: above ∧ s :: above ∈ d.trails ∧ s.node.kids[i]? = some kid := by
  cases mem_trails_iff.mp h with
  | top => exact .inl rfl
  | down way child => exact .inr ⟨_, _, _, _, rfl, mem_trails_iff.mpr way, child⟩

theorem trail_eq_of_key {s t : Trail} (hs : s ∈ d.trails) (ht : t ∈ d.trails) (h : Trail.key s = Trail.key t) :
    s = t :=
  List.inj_on_of_nodup_map (Node.nodup_trails [] 0 d.root.node) hs ht h

end Document

/-! ### Back from a key -/

/-- The places that lead to a node lead, with one more, to a kid of it. -/
theorem Node.descend_concat {higher above : Trail} {i : Nat} {kid : Node} {s : Step} :
    ∀ {places : List Nat} {place : Nat} {n : Node}, Node.descend (⟨place, n⟩ :: higher) places n = some (s :: above) →
      s.node.kids[i]? = some kid →
        Node.descend (⟨place, n⟩ :: higher) (places ++ [i]) n = some (⟨i, kid⟩ :: s :: above)
  | [], place, n, led, hk => by
    obtain ⟨rfl, rfl⟩ := List.cons.inj (Option.some.inj led)
    simp only [List.nil_append, Node.descend, hk]
  | j :: places, place, n, led, hk => by
    rw [Node.descend] at led
    rw [List.cons_append, Node.descend]
    cases hj : n.kids[j]? with
    | none => simp only [hj, reduceCtorEq] at led
    | some next =>
      simp only [hj] at led ⊢
      exact Node.descend_concat led hk

namespace Document

variable {d : Document}

/-- The key of a trail leads back to its node. -/
theorem node?_key {t : Trail} (h : t ∈ d.trails) : d.node? (Trail.key t) = NodeView.ofTrail? t := by
  have led : ∃ places, (Trail.key t).reverse = 0 :: places ∧ Node.descend [d.top] places d.root.node = some t := by
    rw [mem_trails_iff] at h
    induction h with
    | top => exact ⟨[], rfl, rfl⟩
    | down _ child ih =>
      obtain ⟨places, eq, led⟩ := ih
      refine ⟨_, ?_, Node.descend_concat led child⟩
      rw [Trail.key_cons, List.reverse_cons, eq, List.cons_append]
  obtain ⟨places, eq, led⟩ := led
  rw [node?, eq]
  change (Node.descend [d.top] places d.root.node).bind _ = _
  rw [led, Option.bind_some]

end Document

/-! ### Listed nodes -/

/-- The element that a node is. -/
def NodeView.element? : NodeView → Option Element
  | element e => some e
  | text _ => none
  | comment _ => none

theorem NodeView.element?_eq_some {v : NodeView} {e : Element} : v.element? = some e ↔ v = element e := by
  cases v <;> simp [element?]

theorem Element.ofTrail?_eq (t : Trail) : ofTrail? t = (NodeView.ofTrail? t).bind NodeView.element? := by
  rcases t with - | ⟨⟨place, n⟩, above⟩
  · rfl
  · cases n <;> rfl

namespace Listed

variable {t : Trail} {n : Listed}

theorem view_of_ofTrail? (h : ofTrail? t = some n) : NodeView.ofTrail? t = some n.view := by
  obtain ⟨view, hv, rfl⟩ := Option.map_eq_some_iff.mp h
  exact hv

theorem key_of_ofTrail? (h : ofTrail? t = some n) : n.key = Trail.key t := by
  obtain ⟨view, -, rfl⟩ := Option.map_eq_some_iff.mp h
  rfl

theorem parent_of_top {s : Step} (h : ofTrail? [s] = some n) : n.parent = none := by
  obtain ⟨view, -, rfl⟩ := Option.map_eq_some_iff.mp h
  rfl

/-- What is not the root has the key of the node above it. -/
theorem parent_of_kid {s u : Step} {above : Trail} (h : ofTrail? (s :: u :: above) = some n) :
    n.parent = some (Trail.key (u :: above)) := by
  obtain ⟨view, -, rfl⟩ := Option.map_eq_some_iff.mp h
  rfl

/-- A parent's key is the listed key less its first place. -/
theorem key_eq_cons (h : ofTrail? t = some n) {k : Key} (hk : n.parent = some k) : ∃ i, n.key = i :: k := by
  rcases t with - | ⟨s, - | ⟨u, above⟩⟩
  · cases h
  · rw [parent_of_top h] at hk
    cases hk
  · rw [parent_of_kid h] at hk
    exact ⟨s.place, by rw [key_of_ofTrail? h, ← Option.some.inj hk]; rfl⟩

/-- A listed element stands where its own trail says. -/
theorem trail_of_element (h : ofTrail? t = some n) {e : Element} (hv : n.view = .element e) : t = e.trail := by
  have seen := view_of_ofTrail? h
  have found : Element.ofTrail? t = some e := by
    rw [Element.ofTrail?_eq, seen, hv]
    rfl
  exact (Element.trail_of_ofTrail? found).symm

end Listed

namespace Document

variable {d : Document}

theorem mem_nodes {n : Listed} : n ∈ d.nodes ↔ ∃ t ∈ d.trails, Listed.ofTrail? t = some n := List.mem_filterMap

theorem mem_elements {e : Element} : e ∈ d.elements ↔ e.trail ∈ d.trails := by
  refine List.mem_filterMap.trans ⟨?_, fun h => ⟨e.trail, h, rfl⟩⟩
  rintro ⟨t, ht, he⟩
  rw [Element.trail_of_ofTrail? he]
  exact ht

/-- The elements of a document are the elements among its listed nodes. -/
theorem elements_eq (d : Document) : d.elements = d.nodes.filterMap fun n => n.view.element? := by
  rw [elements, nodes, List.filterMap_filterMap]
  congr 1
  funext t
  rw [Element.ofTrail?_eq, Listed.ofTrail?, Option.bind_map]
  rfl

theorem exists_node {e : Element} (h : e ∈ d.elements) : ∃ n ∈ d.nodes, n.view = .element e := by
  obtain ⟨n, hn, hv⟩ := List.mem_filterMap.mp (d.elements_eq ▸ h)
  exact ⟨n, hn, NodeView.element?_eq_some.mp hv⟩

theorem mem_elements_of_node {n : Listed} (h : n ∈ d.nodes) {e : Element} (hv : n.view = .element e) :
    e ∈ d.elements := by
  rw [elements_eq, List.mem_filterMap]
  exact ⟨n, h, NodeView.element?_eq_some.mpr hv⟩

theorem key_of_element {n : Listed} (h : n ∈ d.nodes) {e : Element} (hv : n.view = .element e) : n.key = e.key := by
  obtain ⟨t, -, ht⟩ := mem_nodes.mp h
  rw [Listed.key_of_ofTrail? ht, Listed.trail_of_element ht hv]
  rfl

theorem descendants_subset {e : Element} (he : e ∈ d.elements) : e.descendants ⊆ d.elements := by
  refine List.filterMap_subset _ ?_
  have below := (Node.trailsOfAll_sublist e.above e.place e.node).subset
  exact fun t ht => (Node.trails_sublist (mem_elements.mp he)).subset (below ht)

/-- The nodes are listed in document order. -/
theorem rising_nodes (d : Document) : d.nodes.Pairwise fun m n => m.key.Before n.key := by
  refine (Node.rising_trails [] 0 d.root.node).filterMap _ ?_
  intro s t before m hm n hn
  rwa [Listed.key_of_ofTrail? hm, Listed.key_of_ofTrail? hn]

/-- A listed node is listed after the node above it, and no two have one key. -/
theorem pairwise_nodes (d : Document) : d.nodes.Pairwise fun m n => m.key ≠ n.key ∧ m.parent ≠ some n.key := by
  refine d.rising_nodes.imp_of_mem fun hm _ before => ⟨before.ne, fun same => before.not_suffix ?_⟩
  obtain ⟨t, -, ht⟩ := mem_nodes.mp hm
  obtain ⟨i, eq⟩ := Listed.key_eq_cons ht same
  exact eq ▸ List.suffix_cons _ _

theorem nodup_nodes (d : Document) : (d.nodes.map Listed.key).Nodup :=
  List.pairwise_map.mpr (d.pairwise_nodes.imp And.left)

theorem parent_ne_key {n : Listed} (h : n ∈ d.nodes) : n.parent ≠ some n.key := by
  intro same
  obtain ⟨t, -, ht⟩ := mem_nodes.mp h
  obtain ⟨i, eq⟩ := Listed.key_eq_cons ht same
  exact (List.cons_ne_self _ _) eq.symm

theorem node_eq_of_key {m n : Listed} (hm : m ∈ d.nodes) (hn : n ∈ d.nodes) (h : m.key = n.key) : m = n :=
  List.inj_on_of_nodup_map d.nodup_nodes hm hn h

theorem node?_of_mem {n : Listed} (h : n ∈ d.nodes) : d.node? n.key = some n.view := by
  obtain ⟨t, ht, hn⟩ := mem_nodes.mp h
  rw [Listed.key_of_ofTrail? hn, node?_key ht, Listed.view_of_ofTrail? hn]

end Document

end Pagewalk
