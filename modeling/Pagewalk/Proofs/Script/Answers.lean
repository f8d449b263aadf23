import Pagewalk.Proofs.Document.Navigation
import Pagewalk.Proofs.Script.Wrappers

/-!
# Answers of wrappers

What a script reads of a wrapper asks the document about the number that the wrapper knows, and wraps what it is told:
the kind of the node, its text, what stands above it and what stands in it.
-/

namespace Pagewalk

theorem NumberedDocument.localName_of_element {d : Document} {i : Nat} {e : Element}
    (he : d.numbered.element i = .ok e) : d.numbered.localName? (some i) = .ok (some e.localName) := by
  obtain ⟨n, hi, hv⟩ := element_eq_ok.mp he
  rw [localName?, node_eq_ok.mpr ⟨n, hi, hv⟩]
  rfl

namespace Script

open Text

variable {c : Context} {w : World}

/-! ### What wrappers answer -/

/-- What a text or a comment says. -/
def NodeView.data? : NodeView → Option String
  | .element _ => none
  | .text s => some s
  | .comment s => some s

section Answers

variable {d : Document} {n i : Nat} {k : Kernel} {r : Ref}

theorem nodeType_run (page : c.page = d.numbered) (h : i < 2 ^ 53) {v : NodeView} (hv : d.numbered.node i = .ok v) :
    Bridge.run k .nodeType [.nat i] c w = .ok (.nat v.nodeKind.code) w := by
  obtain ⟨m, hi, rfl⟩ := NumberedDocument.node_eq_ok.mp hv
  change (do return .nat (← ofNodeFault (c.page.nodeType (nodeNumber? i.toFloat))) : Run Value) c w = _
  rw [page, nodeNumber_toFloat h, NumberedDocument.nodeType, d.kinds_get, hi]
  rfl

theorem data_run (page : c.page = d.numbered) (h : i < 2 ^ 53) {v : NodeView} (hv : d.numbered.node i = .ok v) :
    Bridge.run k .data [.nat i] c w = .ok (textOrNull (NodeView.data? v)) w := by
  change (do return textOrNull (← ofNodeFault (c.page.data? (nodeNumber? i.toFloat))) : Run Value) c w = _
  rw [page, nodeNumber_toFloat h, NumberedDocument.data?, hv]
  cases v <;> rfl

theorem localName_run (page : c.page = d.numbered) (h : i < 2 ^ 53) {e : Element} (he : d.numbered.element i = .ok e) :
    Bridge.run k .localName [.nat i] c w = .ok (.string e.localName) w := by
  change (do return textOrNull (← ofNodeFault (c.page.localName? (nodeNumber? i.toFloat))) : Run Value) c w = _
  rw [page, nodeNumber_toFloat h, NumberedDocument.localName_of_element he]
  rfl

theorem parent_run (page : c.page = d.numbered) (h : i < 2 ^ 53) {up : Option Nat}
    (hp : d.numbered.parent (some i) = .ok up) : Bridge.run k .parent [.nat i] c w = .ok (numberValue up) w := by
  change (do return numberValue (← ofNodeFault (c.page.parent (nodeNumber? i.toFloat))) : Run Value) c w = _
  rw [page, nodeNumber_toFloat h, hp]
  rfl

theorem children_run (page : c.page = d.numbered) {x : Float} {scope : Option Nat} (hx : nodeNumber? x = scope)
    {elementsOnly : Bool} {is : List Nat} (hc : d.numbered.children scope elementsOnly = .ok is) :
    Bridge.run k .children [.number x, .bool elementsOnly] c w = makeArray (is.map .nat) c w := by
  change (do makeArray ((← ofNodeFault (c.page.children (nodeNumber? x) (Value.bool elementsOnly).isTruthy)).map
    .nat) : Run Value) c w = _
  rw [page, hx, show (Value.bool elementsOnly).isTruthy = elementsOnly from rfl, hc]
  rfl

theorem sibling_run (page : c.page = d.numbered) {x : Float} {scope : Option Nat} (hx : nodeNumber? x = scope)
    {forward elementsOnly : Bool} {found : Option Nat} (hs : d.numbered.sibling scope forward elementsOnly = .ok found) :
    Bridge.run k .sibling [.number x, .number (cond forward 1.0 (-1.0)), .bool elementsOnly] c w =
      .ok (numberValue found) w := by
  have forwards : decide (cond forward (1.0 : Float) (-1.0) > 0.0) = forward := by
    cases forward <;> decide +kernel
  change (do return numberValue (← ofNodeFault (c.page.sibling (nodeNumber? x)
    (decide (cond forward (1.0 : Float) (-1.0) > 0.0)) (Value.bool elementsOnly).isTruthy)) : Run Value) c w = _
  rw [page, hx, forwards, show (Value.bool elementsOnly).isTruthy = elementsOnly from rfl, hs]
  rfl

/-- The document is asked whether the element of a wrapper matches a selector. -/
theorem matches_run {s : CodeUnits} {b : Bool} (page : c.page = d.numbered) (few : i < 2 ^ 53)
    (h : d.numbered.isMatch (some i) s.toText = .ok b) :
    Bridge.run k .matches [.nat i, .text s] c w = .ok (.bool b) w := by
  change (do return .bool (← ofNodeFault (c.page.isMatch (nodeNumber? i.toFloat) s.toText)) : Run Value) c w = _
  rw [page, nodeNumber_toFloat few, h]
  rfl

/-- A property that only asks the document about the node of a wrapper has the answer. -/
theorem Yields.asked {number a : Value} {q : String × NodeProperty} {f : String × Nat × Bridge}
    (hq : q ∈ nodeProperties) (hf : f ∈ bridgeFunctions) (registers : (NodeFunction.get q.2).registers = 0)
    (asks : ∀ k : Kernel, k.nodeProperty q.2 (.object r) = k.askOf (.object r) (CodeUnits.ofString f.1) [])
    (I : w.realm.Intact) (hr : IsWrapper w.realm.objects r number) (room : c.Room 2 5)
    (tells : f.2.2.run (kernel n) [number] (c.inner 2) w.framed = .ok a w.framed) :
    Yields ((kernel (n + 2)).propertyOf (.object r) (CodeUnits.ofString q.1)) c w fun v _ => v = a := by
  refine .getter hq I hr (room.mono (by omega) (by omega)) ?_
  rw [asks, registers]
  exact .of_ok ((askOf_run [] I.framed hr hf (room.inner (by omega) (by omega))).trans tells) rfl

/-- The wrapper of a node tells its kind. -/
theorem Yields.nodeType (page : c.page = d.numbered) (I : w.realm.Intact) (hr : IsWrapper w.realm.objects r (.nat i))
    (h : i < 2 ^ 53) {v : NodeView} (hv : d.numbered.node i = .ok v) (room : c.Room 2 5) :
    Yields ((kernel (n + 2)).propertyOf (.object r) "nodeType") c w fun a _ => a = .nat v.nodeKind.code :=
  .asked (q := ("nodeType", .nodeType)) (f := ("nodeType", 1, .nodeType)) (by decide) (by decide) rfl (fun _ => rfl) I hr
    room (nodeType_run (c := c.inner 2) page h hv)

/-- The wrapper of a text or of a comment tells what it says. -/
theorem Yields.data (page : c.page = d.numbered) (I : w.realm.Intact) (hr : IsWrapper w.realm.objects r (.nat i))
    (h : i < 2 ^ 53) {v : NodeView} (hv : d.numbered.node i = .ok v) (room : c.Room 2 5) :
    Yields ((kernel (n + 2)).propertyOf (.object r) "data") c w fun a _ => a = textOrNull (NodeView.data? v) :=
  .asked (q := ("data", .data)) (f := ("data", 1, .data)) (by decide) (by decide) rfl (fun _ => rfl) I hr room
    (data_run (c := c.inner 2) page h hv)

/-- The wrapper of an element tells its name. -/
theorem Yields.localName (page : c.page = d.numbered) (I : w.realm.Intact) (hr : IsWrapper w.realm.objects r (.nat i))
    (h : i < 2 ^ 53) {e : Element} (he : d.numbered.element i = .ok e) (room : c.Room 2 5) :
    Yields ((kernel (n + 2)).propertyOf (.object r) "localName") c w fun a _ => a = .string e.localName :=
  .asked (q := ("localName", .localName)) (f := ("localName", 1, .localName)) (by decide) (by decide) rfl (fun _ => rfl)
    I hr room (localName_run (c := c.inner 2) page h he)

/-- The wrapper of the document is that of no node. -/
theorem wrapper_ne_document (h : i < 2 ^ 53) {os : Array Obj} (hr : IsWrapper os r (.nat i)) {s : Ref}
    (hs : IsWrapper os s (.number (-1.0))) : r ≠ s := by
  rintro rfl
  obtain ⟨_, _, _, own⟩ := hr.number
  obtain ⟨_, _, _, own'⟩ := hs.number
  have same : i.toFloat = -1.0 := by
    have := Option.some.inj (own.symm.trans own')
    injection this with this
    exact Value.number.inj this
  have node := nodeNumber_toFloat h
  rw [same, nodeNumber_minusOne] at node
  cases node

/-- The document is asked about the node of a wrapper while values are kept for later. -/
theorem holding_askOf_run {number : Value} (kept : Nat) (args : List Value) (I : w.realm.Intact)
    (hr : IsWrapper w.realm.objects r number) {f : String × Nat × Bridge} (hf : f ∈ bridgeFunctions)
    (room : c.Room 1 (kept + 1)) :
    holding kept ((kernel (n + 1)).askOf (.object r) (CodeUnits.ofString f.1) args) c w =
      f.2.2.run (kernel n) (number :: args) (c.holding kept) w := by
  exact askOf_run (c := c.holding kept) args I hr hf (room.holding (Nat.add_comm ..))

/-- The children of a wrapper are the wrappers of the children. -/
theorem Yields.childrenOf (page : c.page = d.numbered) (I : w.realm.Intact) {x : Float} {scope : Option Nat}
    (hr : IsWrapper w.realm.objects r (.number x)) (hx : nodeNumber? x = scope) (elementsOnly : Bool) {is : List Nat}
    (hc : d.numbered.children scope elementsOnly = .ok is) (small : ∀ j ∈ is, j < 2 ^ 53) (room : c.Room 4 20) :
    Yields ((kernel (n + 5)).propertyOf (.object r) (CodeUnits.ofString (cond elementsOnly "children" "childNodes"))) c w
      (IsArrayOf Wraps is) := by
  have asked := holding_askOf_run (n := n + 3) (c := c.inner 2) (w := w.framed) 2
    [.bool elementsOnly] I.framed hr (f := ("children", 2, .children)) (by decide)
    (room.inner (by omega) (by omega))
  have wrapped := Yields.wrapAll (n := n) (c := c.inner 2) I.framed small (room.inner (by omega) (by omega))
    (asked.trans (children_run (c := (c.inner 2).holding 2) page hx hc))
  have room' : c.Room 1 3 := room.mono (by omega) (by omega)
  cases elementsOnly with
  | false => exact .getter (q := ("childNodes", .childNodes)) (by decide) I hr room' wrapped
  | true => exact .getter (q := ("children", .children)) (by decide) I hr room' wrapped

end Answers

/-! ### Going up -/

section Up

variable {d : Document} {n i : Nat} {k : Kernel} {r s : Ref}

theorem below_zero_run : k.binary .less (numberValue none) (.number 0.0) c w = .ok (.bool true) w :=
  compare_run below_zero false

/-- An element says of itself that it is one. -/
theorem Yields.isElement (page : c.page = d.numbered) (I : w.realm.Intact) (hr : IsWrapper w.realm.objects r (.nat i))
    (h : i < 2 ^ 53) {v : NodeView} (hv : d.numbered.node i = .ok v) (room : c.Room 2 5) :
    Yields ((kernel (n + 2)).isElement (.object r)) c w fun b _ => b = (v.nodeKind == .element) := by
  rw [Kernel.isElement]
  refine (Yields.nodeType page I hr h hv room).bind fun a w₁ _ ha => .of_ok rfl ?_
  rw [ha]
  generalize v.nodeKind = kind
  cases kind <;> decide +kernel

/-- The document says of itself that it is no element. -/
theorem Yields.isElement_document (I : w.realm.Intact)
    (hs : IsWrapper w.realm.objects s (.number (-1.0))) (room : c.Room 2 5) :
    Yields ((kernel (n + 2)).isElement (.object s)) c w fun b _ => b = false := by
  have told : Bridge.run (kernel n) .nodeType [.number (-1.0)] (c.inner 2) w.framed = .ok (.nat 9) w.framed := by
    change (do return .nat (← ofNodeFault ((c.inner 2).page.nodeType (nodeNumber? (-1.0)))) : Run Value) (c.inner 2)
      w.framed = _
    rw [nodeNumber_minusOne]
    rfl
  have type : Yields ((kernel (n + 2)).propertyOf (.object s) "nodeType") c w fun a _ => a = .nat 9 :=
    .asked (q := ("nodeType", .nodeType)) (f := ("nodeType", 1, .nodeType)) (by decide) (by decide) rfl (fun _ => rfl) I
      hs room told
  rw [Kernel.isElement]
  refine type.bind fun a w₁ _ ha => .of_ok rfl ?_
  rw [ha]
  decide +kernel

theorem documentValue_run {m : Realm} (hm : w.realm = m) : documentValue c w = .ok m.document w := by
  subst hm
  rfl

/-- The node above an element, as its wrapper gives it. -/
theorem Yields.parentNode_some (page : c.page = d.numbered) (I : w.realm.Intact)
    (hr : IsWrapper w.realm.objects r (.nat i)) (h : i < 2 ^ 53) {j : Nat}
    (hp : d.numbered.parent (some i) = .ok (some j)) (hj : j < 2 ^ 53) (room : c.Room 3 12) :
    Yields ((kernel (n + 4)).propertyOf (.object r) "parentNode") c w (Wraps j) := by
  obtain ⟨s, document, hs, -⟩ := I.document
  refine .getter (q := ("parentNode", .parentNode)) (by decide) I hr (room.mono (by omega) (by omega)) ?_
  have asked := askOf_run (n := n + 2) (c := c.inner 3) [] I.framed hr (q := ("parent", 1, .parent))
    (by decide) (room.inner (by omega) (by omega))
  rw [Kernel.nodeProperty]
  refine .of_bind (documentValue_run rfl) ?_
  rw [show w.framed.realm.document = w.realm.document from rfl, document,
    show (Value.object r).strictEq (.object s) = false from beq_false_of_ne (wrapper_ne_document h hr hs)]
  refine .of_bind (asked.trans (parent_run (c := c.inner 3) page h hp)) ?_
  refine .of_bind (less_run hj) ?_
  exact .wrap (c := c.inner 3) (pure (numberValue (some j))) I.framed hj (room.inner (by omega) (by omega)) rfl

/-- The document stands above what nothing else stands above. -/
theorem Yields.parentNode_none (page : c.page = d.numbered) (I : w.realm.Intact)
    (hr : IsWrapper w.realm.objects r (.nat i)) (h : i < 2 ^ 53) (hp : d.numbered.parent (some i) = .ok none)
    (room : c.Room 3 12) :
    Yields ((kernel (n + 4)).propertyOf (.object r) "parentNode") c w fun v _ => v = w.realm.document := by
  obtain ⟨s, document, hs, -⟩ := I.document
  refine .getter (q := ("parentNode", .parentNode)) (by decide) I hr (room.mono (by omega) (by omega)) ?_
  have asked := askOf_run (n := n + 2) (c := c.inner 3) [] I.framed hr (q := ("parent", 1, .parent))
    (by decide) (room.inner (by omega) (by omega))
  rw [Kernel.nodeProperty]
  refine .of_bind (documentValue_run rfl) ?_
  rw [show w.framed.realm.document = w.realm.document from rfl, document,
    show (Value.object r).strictEq (.object s) = false from beq_false_of_ne (wrapper_ne_document h hr hs)]
  refine .of_bind (asked.trans (parent_run (c := c.inner 3) page h hp)) ?_
  exact .of_bind below_zero_run (.of_ok rfl rfl)

/-- The element above an element. -/
theorem Yields.parentElement_some (page : c.page = d.numbered) (I : w.realm.Intact)
    (hr : IsWrapper w.realm.objects r (.nat i)) (h : i < 2 ^ 53) {j : Nat}
    (hp : d.numbered.parent (some i) = .ok (some j)) (hj : j < 2 ^ 53) {e : Element}
    (he : d.numbered.element j = .ok e) (room : c.Room 4 15) :
    Yields ((kernel (n + 5)).propertyOf (.object r) "parentElement") c w (Wraps j) := by
  refine .getter (q := ("parentElement", .parentElement)) (by decide) I hr (room.mono (by omega) (by omega)) ?_
  rw [Kernel.nodeProperty]
  refine (Yields.parentNode_some (c := c.inner 3) page I.framed hr h hp hj (room.inner (by omega) (by omega))).bind
    fun v w₁ l₁ hv => ?_
  obtain ⟨t, rfl, ht⟩ := hv
  obtain ⟨m, hm, view⟩ := NumberedDocument.element_eq_ok.mp he
  refine (Yields.isElement (n := n + 2) (c := c.inner 3) page (I.framed.later l₁) ht.toIsWrapper hj
    (NumberedDocument.node_eq_ok.mpr ⟨m, hm, view⟩) (room.inner (by omega) (by omega))).bind fun b w₂ l₂ hb => ?_
  subst hb
  exact .of_ok rfl ⟨t, rfl, ht.later l₂⟩

/-- No element stands above the top element. -/
theorem Yields.parentElement_none (page : c.page = d.numbered) (I : w.realm.Intact)
    (hr : IsWrapper w.realm.objects r (.nat i)) (h : i < 2 ^ 53) (hp : d.numbered.parent (some i) = .ok none)
    (room : c.Room 4 15) :
    Yields ((kernel (n + 5)).propertyOf (.object r) "parentElement") c w fun v _ => v = .null := by
  refine .getter (q := ("parentElement", .parentElement)) (by decide) I hr (room.mono (by omega) (by omega)) ?_
  rw [Kernel.nodeProperty]
  refine (Yields.parentNode_none (c := c.inner 3) page I.framed hr h hp (room.inner (by omega) (by omega))).bind
    fun v w₁ l₁ hv => ?_
  obtain ⟨s, document, hs, -⟩ := (I.framed.later l₁).document
  have same : v = .object s := hv.trans (l₁.document.symm.trans document)
  subst same
  refine (Yields.isElement_document (n := n + 2) (c := c.inner 3) (I.framed.later l₁) hs
    (room.inner (by omega) (by omega))).bind fun b w₂ l₂ hb => ?_
  subst hb
  exact .of_ok rfl rfl

end Up

end Script

end Pagewalk
