import Pagewalk.Proofs.Document.Siblings
import Pagewalk.Proofs.Identity

/-!
# Threads of siblings

A script that starts at the first child of a node and goes on from sibling to sibling comes by the items of the list of its
children, in their order, and reads null behind the last one. From the last child backwards it comes by the same items in
reverse. The same holds of the elements among them, and of the document in place of the node.
-/

namespace Pagewalk.Script

open Text

/-- A script reads a property of a value, of what it has read, and so on until it reads null. It comes by these values. -/
inductive Thread (k : Kernel) (c : Context) (key : Name) : Value → World → List Value → World → Prop where
  | stop {w : World} : Thread k c key .null w [] w
  | next {v u : Value} {vs : List Value} {w w₁ w₂ : World} (some : v ≠ .null) (read : k.propertyOf v key c w = .ok u w₁)
      (rest : Thread k c key u w₁ vs w₂) : Thread k c key v w (v :: vs) w₂

/-- From an end of what stands in a value a script comes by these values. -/
def Threads (k : Kernel) (c : Context) (w : World) (p : Value) (start key : String) (vs : List Value) : Prop :=
  ∃ v w₁ w₂, k.propertyOf p (CodeUnits.ofString start) c w = .ok v w₁ ∧ Thread k c (CodeUnits.ofString key) v w₁ vs w₂

section Siblings

variable {d : Document} {c : Context} {w : World} {n i : Nat} {scope found : Option Nat} {p v u : Value}
  {is : List Nat} {vs : List Value} {os : Array Obj}

theorem Wraps.unique (h : Wraps i v os) (h' : Wraps i u os) : v = u := by
  obtain ⟨r, rfl, kept⟩ := h
  obtain ⟨s, rfl, kept'⟩ := h'
  have item := Option.some.inj (kept.cached.symm.trans kept'.cached)
  injection item

/-- What is found, or null, is what stands at a place just if it is found there. -/
theorem WrapsOption.strictEq_iff {m : Realm} (W : m.Whole) (h : WrapsOption found v m.objects)
    (h' : Stands m.document scope u m.objects) (few : ∀ i, found = some i → i < 2 ^ 53)
    (few' : ∀ i, scope = some i → i < 2 ^ 53) : v.strictEq u = true ↔ found.isSome ∧ found = scope := by
  cases found with
  | none =>
    obtain rfl : v = .null := h
    obtain ⟨r, x, rfl, -⟩ := h'.wrapper (w := ⟨m, {}⟩) W few'
    simp [Value.strictEq]
  | some i =>
    have identical : v.strictEq u = true ↔ some i = scope := Stands.strictEq_iff W h h' few few'
    simpa using identical

section Steps

variable (page : c.page = d.numbered) (small : d.nodes.length ≤ 2 ^ 53) (room : c.Room 5 24)

include page small room

/-- From a node of a list on, whose siblings are its neighbours in the list, a script comes by the rest of the list. -/
theorem exists_thread (forward elementsOnly : Bool) (W : w.realm.Whole)
    (beside : ∀ front i behind, is = front ++ i :: behind →
      d.numbered.sibling (some i) forward elementsOnly = .ok behind.head?)
    (within : ∀ i ∈ is, i < d.nodes.length) (wraps : WrapsAll is vs w.realm.objects)
    (start : WrapsOption is.head? v w.realm.objects) :
    ∃ w', Thread (kernel (n + 6)) c (CodeUnits.ofString (Neighbour.sibling forward elementsOnly).name) v w vs w' := by
  -- The rest of the list has the same neighbours, since `beside` looks only at what is behind a node.
  induction is generalizing v w vs with
  | nil =>
    cases wraps
    obtain rfl : v = .null := start
    exact ⟨w, .stop⟩
  | cons i is ih =>
    cases wraps with
    | @cons _ v' _ vs wrapped wraps =>
      obtain rfl := Wraps.unique start wrapped
      have few : ∀ j, some i = some j → j < 2 ^ 53 := by
        rintro j ⟨⟩
        exact Nat.lt_of_lt_of_le (within i List.mem_cons_self) small
      obtain ⟨r, x, rfl, wrapper, hx⟩ := Stands.wrapper W few (show Stands _ (some i) _ _ from start)
      obtain ⟨u, w₁, read, later, next⟩ := Yields.siblingOf (n := n) page small W room wrapper hx (beside [] i is rfl)
      obtain ⟨w₂, rest⟩ := ih (W.later later) (fun front j behind eq => beside (i :: front) j behind (by rw [eq]; rfl))
        (fun j hj => within j (List.mem_cons_of_mem _ hj)) (WrapsAll.later wraps later) next
      exact ⟨w₂, .next nofun read rest⟩

/-- From the first child of a node a script comes by its children, and from the last child by them in reverse. -/
theorem threads_of_children {last elementsOnly : Bool} (W : w.realm.Whole) (N : w.realm.NoneInFront)
    (hc : d.numbered.children scope elementsOnly = .ok is) (within : ∀ i, scope = some i → i < d.nodes.length)
    (stands : Stands w.realm.document scope p w.realm.objects) (wraps : WrapsAll is vs w.realm.objects)
    (few : last = true → is.length ≤ 4294967295) :
    Threads (kernel (n + 6)) c w p (Neighbour.child last elementsOnly).name (Neighbour.sibling (!last) elementsOnly).name
      (if last then vs.reverse else vs) := by
  obtain ⟨r, x, rfl, wrapper, hx⟩ := stands.wrapper W fun i hi => Nat.lt_of_lt_of_le (within i hi) small
  have inside := NumberedDocument.lt_of_children hc
  obtain ⟨v, w₁, read, later, start⟩ := Yields.childOf (n := n) page small W room wrapper hx hc few fun _ => N
  have W₁ := W.later later
  have wraps₁ := wraps.later later
  cases last with
  | false =>
    obtain ⟨w₂, thread⟩ := exists_thread (n := n) page small room true elementsOnly W₁
      (fun front i behind eq => (NumberedDocument.sibling_of_children (eq ▸ hc)).1) inside wraps₁ start
    exact ⟨v, w₁, w₂, read, thread⟩
  | true =>
    have beside (front : List Nat) (i : Nat) (behind : List Nat) (eq : is.reverse = front ++ i :: behind) :
        d.numbered.sibling (some i) false elementsOnly = .ok behind.head? := by
      have split : is = behind.reverse ++ i :: front.reverse := by rw [← List.reverse_reverse is, eq]; simp
      rw [(NumberedDocument.sibling_of_children (split ▸ hc)).2, List.getLast?_reverse]
    rw [if_pos rfl, ← List.head?_reverse] at start
    obtain ⟨w₂, thread⟩ := exists_thread (n := n) page small room false elementsOnly W₁ beside
      (fun i hi => inside i (List.mem_reverse.mp hi)) (List.rel_reverse wraps₁) start
    exact ⟨v, w₁, w₂, read, thread⟩

/-- The node after a node is another one just if the node before the other one is the node. -/
theorem siblings_comm {place : Option Nat} (W : w.realm.Whole) (hv : Stands w.realm.document scope v w.realm.objects)
    (hu : Stands w.realm.document place u w.realm.objects) (few : ∀ i, scope = some i → i < d.nodes.length)
    (few' : ∀ i, place = some i → i < d.nodes.length) :
    ∃ a w₁ b w₂, (kernel (n + 6)).propertyOf v "nextSibling" c w = .ok a w₁ ∧
      (kernel (n + 6)).propertyOf u "previousSibling" c w₁ = .ok b w₂ ∧ (a.strictEq u = true ↔ b.strictEq v = true) := by
  have exact {place : Option Nat} (h : ∀ i, place = some i → i < d.nodes.length) (i : Nat) (hi : place = some i) :
      i < 2 ^ 53 := Nat.lt_of_lt_of_le (h i hi) small
  obtain ⟨next, hnext⟩ := NumberedDocument.exists_sibling true false few
  obtain ⟨previous, hprevious⟩ := NumberedDocument.exists_sibling false false few'
  obtain ⟨r, x, rfl, wrapper, hx⟩ := hv.wrapper W (exact few)
  obtain ⟨a, w₁, read, later, ha⟩ := Yields.siblingOf (n := n) page small W room wrapper hx hnext
  have hu₁ := hu.later later
  have W₁ := W.later later
  obtain ⟨s, y, rfl, wrapper', hy⟩ := hu₁.wrapper W₁ (exact few')
  obtain ⟨b, w₂, read', later', hb⟩ := Yields.siblingOf (n := n) page small W₁ room wrapper' hy hprevious
  refine ⟨a, w₁, b, w₂, read, read', ?_⟩
  have found {j : Nat} {scope : Option Nat} {forward : Bool}
      (h : d.numbered.sibling scope forward false = .ok (some j)) : j < d.nodes.length := NumberedDocument.lt_of_sibling h
  -- Both answers are compared by their numbers, and the numbers by the table of the document.
  rw [ha.strictEq_iff W₁ hu₁ (exact fun j hj => found (hj ▸ hnext)) (exact few'),
    hb.strictEq_iff (W₁.later later') ((hv.later later).later later') (exact fun j hj => found (hj ▸ hprevious)) (exact few)]
  constructor
  · rintro ⟨there, rfl⟩
    obtain ⟨j, rfl⟩ := Option.isSome_iff_exists.mp there
    cases scope with
    | none => cases hnext
    | some i =>
      have back := (NumberedDocument.sibling_comm (few i rfl) (few' j rfl)).mp hnext
      obtain rfl := Except.ok.inj (hprevious.symm.trans back)
      exact ⟨rfl, rfl⟩
  · rintro ⟨there, rfl⟩
    obtain ⟨i, rfl⟩ := Option.isSome_iff_exists.mp there
    cases place with
    | none => cases hprevious
    | some j =>
      have forth := (NumberedDocument.sibling_comm (few i rfl) (few' j rfl)).mpr hprevious
      obtain rfl := Except.ok.inj (hnext.symm.trans forth)
      exact ⟨rfl, rfl⟩

end Steps

end Siblings

/-- Sibling links thread the lists of children: from either end a script comes by just the items of the list that it reads,
whichever node or document they stand in, and two nodes are next to each other in both directions or in none. -/
theorem siblings_thread_children {n : Nat} (d : Document) (c : Context) (w : World) (page : c.page = d.numbered)
    (W : w.realm.Whole) (N : w.realm.NoneInFront) (small : d.nodes.length ≤ 2 ^ 53) (room : c.Room 5 24) :
    let k := kernel (n + 6)
    (∀ scope p elementsOnly, (∀ i, scope = some i → i < d.nodes.length) →
      Stands w.realm.document scope p w.realm.objects →
      ∃ r w₁ vs is, k.propertyOf p (CodeUnits.ofString (cond elementsOnly "children" "childNodes")) c w = .ok (.object r) w₁ ∧
        IsArray w₁.realm.objects r vs ∧ d.numbered.children scope elementsOnly = .ok is ∧ WrapsAll is vs w₁.realm.objects ∧
        ∀ w₂ : World, w₁.realm.Later w₂.realm →
          Threads k c w₂ p (cond elementsOnly "firstElementChild" "firstChild")
            (cond elementsOnly "nextElementSibling" "nextSibling") vs ∧
          (vs.length ≤ 4294967295 → Threads k c w₂ p (cond elementsOnly "lastElementChild" "lastChild")
            (cond elementsOnly "previousElementSibling" "previousSibling") vs.reverse)) ∧
    (∀ scope place v u, (∀ i, scope = some i → i < d.nodes.length) → (∀ i, place = some i → i < d.nodes.length) →
      Stands w.realm.document scope v w.realm.objects → Stands w.realm.document place u w.realm.objects →
      ∃ a w₁ b w₂, k.propertyOf v "nextSibling" c w = .ok a w₁ ∧ k.propertyOf u "previousSibling" c w₁ = .ok b w₂ ∧
        (a.strictEq u = true ↔ b.strictEq v = true)) := by
  intro k
  refine ⟨fun scope p elementsOnly within stands => ?_, fun scope place v u few few' hv hu =>
    siblings_comm page small room W hv hu few few'⟩
  obtain ⟨all, found⟩ := NumberedDocument.exists_childrenOf within
  have hc : d.numbered.children scope elementsOnly = .ok (d.numbered.table.chosen elementsOnly all) :=
    NumberedDocument.children_eq_ok.mpr ⟨all, found, rfl⟩
  obtain ⟨s, x, rfl, wrapper, hx⟩ := stands.wrapper W fun i hi => Nat.lt_of_lt_of_le (within i hi) small
  obtain ⟨v, w₁, read, later, r, vs, rfl, array, wraps⟩ := Yields.childrenOf (n := n + 1) page W.toIntact wrapper.toIsWrapper hx
    elementsOnly hc (fun j hj => Nat.lt_of_lt_of_le (NumberedDocument.lt_of_children hc j hj) small)
    (room.mono (by decide) (by decide))
  refine ⟨r, w₁, vs, _, read, array, hc, wraps, fun w₂ later' => ?_⟩
  have later₂ := later.trans later'
  have thread (last : Bool) (few : last = true → (d.numbered.table.chosen elementsOnly all).length ≤ 4294967295) :=
    threads_of_children (n := n) (w := w₂) page small room (W.later later₂) (N.later W.toIntact later₂) hc within
      (stands.later later₂) (WrapsAll.later wraps later') few
  constructor
  · have forth := thread false nofun
    cases elementsOnly <;> exact forth
  · intro few
    have back := thread true fun _ => (List.Forall₂.length_eq wraps).symm ▸ few
    cases elementsOnly <;> exact back

/-- At first nothing stands in front of the items of arrays. -/
theorem Realm.equipped_noneInFront : Realm.equipped.NoneInFront := by
  obtain ⟨r, os, os', furnished, equipped, more, -⟩ := equip_run
  obtain ⟨s, os₁, run, keeps, -⟩ := furnish_run
  obtain ⟨rfl, rfl⟩ := Prod.mk.inj (run.symm.trans furnished)
  have objects : Realm.equipped.objects = os' := by rw [Realm.equipped, equipped]
  have within (o : Ref) (h : o < 25) : o < intrinsicObjects.size := h
  have own (o : Ref) (h : o < 25) (free : ¬ Furnished o "-1") (none : (objectAt intrinsicObjects o).own? "-1" = .none) :
      (objectAt Realm.equipped.objects o).own? "-1" = .none := by
    rw [objects, more.own o (Nat.lt_of_lt_of_le (within o h) keeps.size) _ (by decide +kernel), keeps.own o (within o h) _ free,
      none]
  constructor
  · exact own _ (by decide) (by unfold Furnished; decide +kernel) (own_minusOne _ _ _)
  · exact own _ (by decide) (by unfold Furnished; decide +kernel) (own_ofShape_plain _ _)

theorem siblings_thread_children_twoParagraphs :
    let d := twoParagraphs
    let c := Context.opening d
    let w : World := ⟨.equipped, {}⟩
    let k := kernel 6
    c.page = d.numbered ∧ w.realm.Whole ∧ w.realm.NoneInFront ∧ d.nodes.length ≤ 2 ^ 53 ∧ c.Room 5 24 ∧
      ∃ root w₁ r w₂ vs, Wraps 0 root w₁.realm.objects ∧ k.propertyOf root "childNodes" c w₁ = .ok (.object r) w₂ ∧
        IsArray w₂.realm.objects r vs ∧ vs.length = 2 ∧ Threads k c w₂ root "firstChild" "nextSibling" vs ∧
        Threads k c w₂ root "lastChild" "previousSibling" vs.reverse := by
  intro d c w k
  have small : d.nodes.length ≤ 2 ^ 53 := by decide +kernel
  have room : c.Room 5 24 := ⟨by decide, by decide⟩
  have W : w.realm.Whole := Realm.equipped_whole
  have N : w.realm.NoneInFront := Realm.equipped_noneInFront
  obtain ⟨root, w₁, -, later, wraps⟩ := Yields.wrapNumber (n := 0) (c := c) (i := 0) W.toIntact (by decide)
    (room.mono (by decide) (by decide))
  obtain ⟨r, w₂, vs, is, read, array, hc, all, threads⟩ :=
    (siblings_thread_children (n := 0) d c w₁ rfl (W.later later) (N.later W.toIntact later) small room).1
      (some 0) root false (by rintro i ⟨⟩; decide +kernel) wraps
  obtain ⟨is', hc', nodes⟩ := NumberedDocument.nodes_of_children (NumberedDocument.element_zero d)
  obtain rfl := Except.ok.inj (hc.symm.trans hc')
  have two : vs.length = 2 := by
    rw [← List.Forall₂.length_eq all, ← List.length_map d.numbered.node, nodes, List.length_map]
    decide +kernel
  obtain ⟨forth, back⟩ := threads w₂ (.refl _)
  exact ⟨rfl, W, N, small, room, root, w₁, r, w₂, vs, wraps, read, array, two, forth, back (by rw [two]; decide)⟩

end Pagewalk.Script
