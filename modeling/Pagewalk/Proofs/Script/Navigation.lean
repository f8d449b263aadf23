import Pagewalk.Proofs.Script.Furnishing
import Pagewalk.Proofs.Script.Named
import Pagewalk.Proofs.Script.Queries

/-!
# Navigation of scripts

A script goes from node to node by what it reads of wrappers, which ask the document by numbers and wrap the answers. It
comes to the same nodes, in the same order, to which a program comes from element to element: the parent, the children,
and the parts of the document.
-/

namespace Pagewalk.Script

open Text

variable {α : Type}

section Mirror

variable {d : Document} {n : Nat}

/-- A value is the wrapper of a node of a document. -/
def WrapsNode (d : Document) (x : NodeView) (v : Value) (os : Array Obj) : Prop :=
  ∃ i, d.numbered.node i = .ok x ∧ Wraps i v os

/-- A value is the wrapper of an element of a document. -/
def WrapsElement (d : Document) (e : Element) (v : Value) (os : Array Obj) : Prop :=
  ∃ i, d.numbered.element i = .ok e ∧ Wraps i v os

/-- A value is null or the wrapper of an element, as there is one or not. -/
def WrapsElement? (d : Document) (e : Option Element) (v : Value) (os : Array Obj) : Prop :=
  match e with
  | none => v = .null
  | some e => WrapsElement d e v os

/-- Wrappers of numbers are wrappers of what the numbers stand for. -/
theorem IsArrayOf.of_numbers {R : α → Value → Array Obj → Prop} {f : Nat → Except NodeFault α} {is : List Nat}
    {as : List α} {v : Value} {os : Array Obj} (hf : is.map f = as.map .ok)
    (hR : ∀ i a v, f i = .ok a → Wraps i v os → R a v os) (h : IsArrayOf Wraps is v os) : IsArrayOf R as v os := by
  obtain ⟨r, vs, rfl, hr, wraps⟩ := h
  refine ⟨r, vs, rfl, hr, ?_⟩
  clear hr
  induction wraps generalizing as with
  | nil =>
    rw [List.map_eq_nil_iff.mp hf.symm]
    exact .nil
  | cons hv _ ih =>
    obtain ⟨a, as, rfl, ha, rest⟩ := List.map_eq_cons_iff.mp hf.symm
    exact .cons (hR _ _ _ ha.symm hv) (ih rest.symm)

theorem lt_of_node {i : Nat} {x : NodeView} (h : d.numbered.node i = .ok x) : i < d.nodes.length := by
  obtain ⟨_, hi, -⟩ := NumberedDocument.node_eq_ok.mp h
  exact (List.getElem?_eq_some_iff.mp hi).1

theorem node_of_element {i : Nat} {e : Element} (h : d.numbered.element i = .ok e) :
    d.numbered.node i = .ok (.element e) := by
  obtain ⟨m, hi, hv⟩ := NumberedDocument.element_eq_ok.mp h
  exact NumberedDocument.node_eq_ok.mpr ⟨m, hi, hv⟩

theorem lt_of_element {i : Nat} {e : Element} (h : d.numbered.element i = .ok e) : i < d.nodes.length :=
  lt_of_node (node_of_element h)

theorem lt_of_map {is : List Nat} {f : Nat → Except NodeFault α} {as : List α} (hf : is.map f = as.map .ok)
    (within : ∀ j a, f j = .ok a → j < d.nodes.length) : ∀ j ∈ is, j < d.nodes.length := by
  intro j hj
  obtain ⟨a, -, ha⟩ := List.mem_map.mp (hf ▸ List.mem_map_of_mem hj)
  exact within j a ha.symm

/-- What is found first among numbers is found first among what they stand for. -/
theorem find?_of_map {is : List Nat} {f : Nat → Except NodeFault α} {as : List α} (hf : is.map f = as.map .ok)
    (q : α → Bool) : (is.find? fun j => (f j).toOption.any q).map f = (as.find? q).map .ok := by
  induction as generalizing is with
  | nil => rw [List.map_eq_nil_iff.mp hf]; rfl
  | cons a as ih =>
    obtain ⟨j, is, rfl, hj, rest⟩ := List.map_eq_cons_iff.mp hf
    have same : (f j).toOption.any q = q a := by rw [hj]; rfl
    rw [List.find?_cons, List.find?_cons, same]
    cases q a with
    | true => exact congrArg some hj
    | false => exact ih rest

theorem head?_eq (d : Document) : d.head? = d.root.children.find? fun e => ["head"].contains e.localName := by
  refine congrArg d.root.children.find? (funext fun e => ?_)
  rw [Bool.eq_iff_iff]
  simp

theorem body?_eq (d : Document) :
    d.body? = d.root.children.find? fun e => ["body", "frameset"].contains e.localName := by
  refine congrArg d.root.children.find? (funext fun e => ?_)
  rw [Bool.eq_iff_iff]
  simp

variable {c : Context} {w : World} {r : Ref} {i : Nat} {e : Element}

/-- The element above an element. -/
theorem Yields.parentElement (page : c.page = d.numbered) (I : w.realm.Intact) (small : d.nodes.length ≤ 2 ^ 53)
    (room : c.Room 4 15) (hr : IsWrapper w.realm.objects r (.nat i)) (he : d.numbered.element i = .ok e) :
    Yields ((kernel (n + 5)).propertyOf (.object r) "parentElement") c w (WrapsElement? d e.parent?) := by
  have hi := Nat.lt_of_lt_of_le (lt_of_element he) small
  have parent := NumberedDocument.parent_of_element he
  cases up : e.parent?.bind d.numbered.table.position? with
  | none =>
    rw [up] at parent
    rw [(NumberedDocument.parent_eq_none he).mp parent]
    exact .parentElement_none page I hr hi parent room
  | some j =>
    rw [up] at parent
    obtain ⟨f, hf, found⟩ := (NumberedDocument.parent_eq_some he).mp parent
    rw [hf]
    have hj := Nat.lt_of_lt_of_le (lt_of_element found) small
    exact (Yields.parentElement_some page I hr hi parent hj found room).mono fun v os hv => ⟨j, found, hv⟩

/-- The elements in an element. -/
theorem Yields.children (page : c.page = d.numbered) (I : w.realm.Intact) (small : d.nodes.length ≤ 2 ^ 53)
    (room : c.Room 4 20) (hr : IsWrapper w.realm.objects r (.nat i)) (he : d.numbered.element i = .ok e) :
    Yields ((kernel (n + 5)).propertyOf (.object r) "children") c w (IsArrayOf (WrapsElement d) e.children) := by
  obtain ⟨is, hc, elements⟩ := NumberedDocument.elements_of_children he
  have within := lt_of_map elements fun j a ha => lt_of_element ha
  exact (Yields.childrenOf page I hr (nodeNumber_toFloat (Nat.lt_of_lt_of_le (lt_of_element he) small)) true hc
    (fun j hj => Nat.lt_of_lt_of_le (within j hj) small) room).mono
      fun v os => .of_numbers elements fun i a v ha hv => ⟨i, ha, hv⟩

/-- The nodes in an element. -/
theorem Yields.childNodes (page : c.page = d.numbered) (I : w.realm.Intact) (small : d.nodes.length ≤ 2 ^ 53)
    (room : c.Room 4 20) (hr : IsWrapper w.realm.objects r (.nat i)) (he : d.numbered.element i = .ok e) :
    Yields ((kernel (n + 5)).propertyOf (.object r) "childNodes") c w (IsArrayOf (WrapsNode d) e.childNodes) := by
  obtain ⟨is, hc, nodes⟩ := NumberedDocument.nodes_of_children he
  have within := lt_of_map nodes fun j a ha => lt_of_node ha
  exact (Yields.childrenOf page I hr (nodeNumber_toFloat (Nat.lt_of_lt_of_le (lt_of_element he) small)) false hc
    (fun j hj => Nat.lt_of_lt_of_le (within j hj) small) room).mono
      fun v os => .of_numbers nodes fun i a v ha hv => ⟨i, ha, hv⟩

theorem Yields.documentElement (d : Document) (I : w.realm.Intact) (room : c.Room 3 11) :
    Yields ((kernel (n + 4)).propertyOf w.realm.document "documentElement") c w (WrapsElement d d.root) := by
  refine .documentGetter (q := ("documentElement", .root)) (by decide) I (room.mono (by decide) (by decide)) ?_
  exact (Yields.wrap (n := n) (i := 0) (c := c.inner 2) (pure (.number 0.0)) I.framed (by decide)
    (room.inner (by decide) (by decide)) rfl).mono fun v os hv => ⟨0, NumberedDocument.element_zero d, hv⟩

/-- The title of the document. -/
theorem Yields.title (page : c.page = d.numbered) (I : w.realm.Intact) (room : c.Room 2 5) :
    Yields ((kernel (n + 2)).propertyOf w.realm.document "title") c w fun v _ => v = .string d.title := by
  refine .documentGetter (q := ("title", .title)) (by decide) I (room.mono (by decide) (by decide)) ?_
  have asked := ask_run (n := n) (c := c.inner 2) (w := w.framed) [] I.framed (q := ("title", 0, .title))
    (by decide) (room.inner (by decide) (by decide))
  have told : Bridge.run (kernel n) .title [] (c.inner 2) w.framed = .ok (.string d.title) w.framed := by
    rw [show Bridge.run (kernel n) .title [] (c.inner 2) w.framed = .ok (.string c.page.document.title) w.framed from rfl,
      page]
    rfl
  exact .of_ok (asked.trans told) rfl

/-- The first child of the root that has one of some names. -/
theorem Yields.namedChild (page : c.page = d.numbered) (I : w.realm.Intact) (small : d.nodes.length ≤ 2 ^ 53)
    (room : c.Room 6 27) (q : String × DocumentPart) (hq : q ∈ documentParts) {names : List String}
    (asks : ∀ k : Kernel, k.documentPart q.2 = k.rootChild names) (few : names.length < 2 ^ 53) :
    Yields ((kernel (n + 6)).propertyOf w.realm.document (CodeUnits.ofString q.1)) c w
      (WrapsElement? d (d.root.children.find? fun e => names.contains e.localName)) := by
  obtain ⟨is, hc, elements⟩ := NumberedDocument.elements_of_children (NumberedDocument.element_zero d)
  have within := lt_of_map elements fun j a ha => lt_of_element ha
  let p (j : Nat) : Bool := (d.numbered.element j).toOption.any fun e => names.contains e.localName
  have hp : ∀ j ∈ is, ∃ e, d.numbered.element j = .ok e ∧ p j = names.contains e.localName := by
    intro j hj
    obtain ⟨e, -, he⟩ := List.mem_map.mp (elements ▸ List.mem_map_of_mem hj)
    refine ⟨e, he.symm, ?_⟩
    change (d.numbered.element j).toOption.any _ = _
    rw [← he]
    rfl
  refine .documentGetter hq I (room.mono (by decide) (by decide)) ?_
  rw [asks]
  refine (Yields.rootChild (n := n) (c := c.inner 2) page I.framed hc
    (fun j hj => Nat.lt_of_lt_of_le (within j hj) small) few p hp (room.inner (by decide) (by decide))).mono
      fun v os hv => ?_
  have found : (is.find? p).map d.numbered.element =
      (d.root.children.find? fun e => names.contains e.localName).map .ok := find?_of_map elements _
  cases hf : is.find? p with
  | none =>
    rw [hf] at found hv
    rw [Option.map_eq_none_iff.mp found.symm]
    exact hv
  | some j =>
    rw [hf] at found hv
    obtain ⟨e, he, hj⟩ := Option.map_eq_some_iff.mp found.symm
    rw [he]
    exact ⟨j, hj.symm, hv⟩

end Mirror

/-- Wherever a script goes, a program comes too: what a script reads of the wrapper of an element and of the document are
the wrappers of what a program has there, as long as the numbers of nodes are exact as doubles. -/
theorem navigation_agrees {n : Nat} (d : Document) (c : Context) (w : World) (page : c.page = d.numbered)
    (I : w.realm.Intact) (small : d.nodes.length ≤ 2 ^ 53) (room : c.Room 6 27) :
    let read (v : Value) (key : Name) : Run Value := (kernel (n + 6)).propertyOf v key
    (∀ r i e, IsWrapper w.realm.objects r (.nat i) → d.numbered.element i = .ok e →
      Yields (read (.object r) "parentElement") c w (WrapsElement? d e.parent?) ∧
      Yields (read (.object r) "children") c w (IsArrayOf (WrapsElement d) e.children) ∧
      Yields (read (.object r) "childNodes") c w (IsArrayOf (WrapsNode d) e.childNodes)) ∧
    (∀ r i x, IsWrapper w.realm.objects r (.nat i) → d.numbered.node i = .ok x →
      Yields (read (.object r) "nodeType") c w (fun v _ => v = .nat x.nodeKind.code) ∧
      Yields (read (.object r) "data") c w (fun v _ => v = textOrNull (NodeView.data? x))) ∧
    Yields (read w.realm.document "documentElement") c w (WrapsElement d d.root) ∧
    Yields (read w.realm.document "head") c w (WrapsElement? d d.head?) ∧
    Yields (read w.realm.document "body") c w (WrapsElement? d d.body?) ∧
    Yields (read w.realm.document "title") c w (fun v _ => v = .string d.title) := by
  intro read
  refine ⟨fun r i e hr he => ⟨?_, ?_, ?_⟩, fun r i x hr hx => ⟨?_, ?_⟩, ?_, ?_, ?_, ?_⟩
  · exact .parentElement page I small (room.mono (by decide) (by decide)) hr he
  · exact .children page I small (room.mono (by decide) (by decide)) hr he
  · exact .childNodes page I small (room.mono (by decide) (by decide)) hr he
  · exact .nodeType page I hr (Nat.lt_of_lt_of_le (lt_of_node hx) small) hx (room.mono (by decide) (by decide))
  · exact .data page I hr (Nat.lt_of_lt_of_le (lt_of_node hx) small) hx (room.mono (by decide) (by decide))
  · exact .documentElement d I (room.mono (by decide) (by decide))
  · rw [head?_eq]
    exact .namedChild page I small room ("head", .head) (by decide) (fun _ => rfl) (by decide)
  · rw [body?_eq]
    exact .namedChild page I small room ("body", .body) (by decide) (fun _ => rfl) (by decide)
  · exact .title page I (room.mono (by decide) (by decide))

theorem navigation_agrees_twoParagraphs :
    let d := twoParagraphs
    let c := Context.opening d
    let w : World := ⟨.furnished, {}⟩
    let read (v : Value) (key : Name) : Run Value := (kernel 6).propertyOf v key
    c.page = d.numbered ∧ w.realm.Intact ∧ d.nodes.length ≤ 2 ^ 53 ∧ c.Room 6 27 ∧
      Yields (read w.realm.document "title") c w (fun v _ => v = .string d.title) ∧
      ∃ r i w', read w.realm.document "documentElement" c w = .ok (.object r) w' ∧
        IsWrapper w'.realm.objects r (.nat i) ∧ d.numbered.element i = .ok d.root ∧
        Yields (read (.object r) "children") c w' (IsArrayOf (WrapsElement d) d.root.children) := by
  intro d c w read
  have small : d.nodes.length ≤ 2 ^ 53 := by decide +kernel
  have room : c.Room 6 27 := ⟨by decide, by decide⟩
  obtain ⟨-, -, root, -, -, title⟩ := navigation_agrees (n := 0) d c w rfl Realm.furnished_intact small room
  obtain ⟨v, w', eq, later, i, hi, r, rfl, hr⟩ := root
  have there := navigation_agrees (n := 0) d c w' rfl (Realm.furnished_intact.later later) small room
  exact ⟨rfl, Realm.furnished_intact, small, room, title, r, i, w', eq, hr.toIsWrapper, hi,
    (there.1 r i d.root hr.toIsWrapper hi).2.1⟩

end Pagewalk.Script
