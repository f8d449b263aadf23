import Pagewalk.Proofs.Script.Loops
import Pagewalk.Proofs.Script.Ways

/-!
# Where scripts arrive

A script that goes by a way arrives where a program does: the value of the expression is the document, or the wrapper of
the node to which the way leads. Each step of a way is a property that is read, a method that is called or an item of a
list, and the expression is a step after the other.
-/

namespace Pagewalk.Script

open Text

/-! ### Where values stand -/

/-- A value is the document, or the wrapper of a node. -/
def Stands (document : Value) (place : Option Nat) (v : Value) (os : Array Obj) : Prop :=
  match place with
  | none => v = document
  | some i => Wraps i v os

variable {d : Document} {c : Context} {w : World} {n : Nat} {scope place : Option Nat} {v : Value}

/-- What stands somewhere is a wrapper that knows the place. -/
theorem Stands.wrapper (W : w.realm.Whole) (few : ∀ i, scope = some i → i < 2 ^ 53)
    (h : Stands w.realm.document scope v w.realm.objects) :
    ∃ r x, v = .object r ∧ IsOpenWrapper w.realm.objects r (.number x) ∧ nodeNumber? x = scope := by
  cases scope with
  | none =>
    obtain ⟨r, document, wrapper⟩ := W.openDocument
    exact ⟨r, -1.0, h.trans document, wrapper, by decide +kernel⟩
  | some i =>
    obtain ⟨r, rfl, kept⟩ := h
    exact ⟨r, i.toFloat, rfl, kept.toIsOpenWrapper, nodeNumber_toFloat (few i rfl)⟩

/-- The first match among the numbers of an element and those above it is the first match of the chain of parents. -/
theorem exists_find?_of_firstMatch {s : String} {i j levels left : Nat}
    (h : d.numbered.firstMatch s ((d.numbered.lineFrom levels i).take left) = .ok (some j)) :
    ∃ e selector f, d.numbered.element i = .ok e ∧ Selector.read s = .ok selector ∧
      e.chain.find? (·.matchesWithin none selector) = some f ∧ d.numbered.element j = .ok f ∧
      e.chain.findIdx (·.matchesWithin none selector) < left := by
  -- The numbers above a node and its chain of parents are gone through side by side.
  induction left generalizing i levels with
  | zero => cases h
  | succ left ih =>
    cases levels with
    | zero => cases h
    | succ levels =>
      rw [NumberedDocument.lineFrom, List.take_succ_cons] at h
      obtain ⟨b, asked⟩ := exists_isMatch_of_firstMatch h
      obtain ⟨e, he⟩ := exists_element_of_isMatch asked
      rw [NumberedDocument.firstMatch, asked] at h
      simp only [NumberedDocument.isMatch, he, Element.matchesText] at asked
      cases read : Selector.read s with
      | error fault =>
        rw [read] at asked
        cases asked
      | ok selector =>
        rw [read] at asked
        obtain rfl : e.matchesWithin none selector = b := Except.ok.inj asked
        have first : e.chain = e :: Trail.line e.above := Element.line_trail e
        cases hit : e.matchesWithin none selector with
        | true =>
          rw [hit] at h
          cases h
          refine ⟨e, selector, e, he, rfl, ?_, he, ?_⟩
          · rw [first, List.find?_cons_of_pos hit]
          · rw [first, List.findIdx_cons, hit, cond_true]
            exact Nat.succ_pos left
        | false =>
          rw [hit] at h
          dsimp only at h
          split at h
          next up above =>
            obtain ⟨f, parent, hf⟩ := (NumberedDocument.parent_eq_some he).mp (by rw [NumberedDocument.parent, above])
            obtain ⟨f', selector', g, hf', read', found, hg, few⟩ := ih h
            obtain rfl := Except.ok.inj (hf.symm.trans hf')
            obtain rfl := Except.ok.inj (read.symm.trans read')
            refine ⟨e, selector, g, he, rfl, ?_, hg, ?_⟩
            · rw [Element.chain_of_parent parent, List.find?_cons_of_neg (by simp [hit]), found]
            · rw [Element.chain_of_parent parent, List.findIdx_cons, hit, cond_false]
              exact Nat.succ_lt_succ few
          next =>
            rw [List.take_nil] at h
            cases h

/-! ### Steps of ways -/

section Lists

variable {k : Kernel} {is : List Nat} {i : Nat} (h : IsArrayOf Wraps is v w.realm.objects)

include h

theorem Yields.readIndex (n : Fin 4294967295) (hi : is[n.val]? = some i) :
    Yields (k.readIndex v (.number n.val.toFloat)) c w (Wraps i) := by
  obtain ⟨s, items, rfl, hs, wraps⟩ := h
  obtain ⟨x, item, wrapped⟩ := WrapsAll.exists_getElem? wraps hi
  exact .of_ok (hs.readIndex_run n.isLt item) wrapped

/-- The first or the last item of a list, or null if it has none. -/
theorem Yields.endOf (I : w.realm.Intact) {last : Bool} (few : last = true → is.length ≤ 4294967295)
    (none : is = [] → w.realm.NoneInFront) : Yields (if last then k.lastOf v else k.firstOf v) c w
      (WrapsOption (if last then is.getLast? else is.head?)) := by
  obtain ⟨s, items, rfl, hs, wraps⟩ := h
  have truthy := WrapsAll.truthy wraps
  cases last with
  | false => exact .of_ok (firstOf_run I hs truthy) (WrapsAll.head wraps)
  | true =>
    have length := List.Forall₂.length_eq wraps
    refine .of_ok (lastOf_run I hs (length ▸ few rfl) (fun empty => none ?_) truthy) (WrapsAll.last wraps)
    rwa [← List.length_eq_zero_iff, length, List.length_eq_zero_iff]

end Lists

section Steps

variable (page : c.page = d.numbered) (small : d.nodes.length ≤ 2 ^ 53) (W : w.realm.Whole)

include page small W

/-- The first element that matches a selector. -/
theorem Yields.firstMatch {s : CodeUnits} {among : Option Element} {es : List Element} {i : Nat} (room : c.Room 4 22)
    (few : ∀ i, scope = some i → i < 2 ^ 53) (h : Stands w.realm.document scope v w.realm.objects)
    (hs : d.scope? scope = some among) (answer : (Question.first s).answer d among = .ok es)
    (hi : (d.numbered.table.positionsOf es).head? = some i) :
    Yields ((kernel (n + 5)).callWith v "querySelector" s) c w (Wraps i) := by
  obtain ⟨r, x, rfl, wrapper, hx⟩ := h.wrapper W few
  have told : d.numbered.query (nodeNumber? x) s.toText true = .ok (d.numbered.table.positionsOf es) :=
    Question.read_of_answer (.of_scope hx hs) answer
  have small' : ∀ i ∈ d.numbered.table.positionsOf es, i < 2 ^ 53 := fun i hi =>
    Nat.lt_of_lt_of_le (lt_of_positionsOf i hi) small
  refine .callWith (q := ("querySelector", 1, .method .querySelector)) (by simp [nodeMethods, nodeMethod]) W wrapper
    (room.mono (by decide) (by decide)) ?_
  refine .of_run_eq (bind_of_ok read_run _) ?_
  have asked : Yields ((kernel (n + 4)).wrapAll (do
      let text ← holding 3 ((kernel (n + 4)).asText (.text s))
      (kernel (n + 4)).askOf (.object r) "query" [text, .bool true])) (c.inner 4) w.framed
      (IsArrayOf Wraps (d.numbered.table.positionsOf es)) := by
    refine .wrapAsked (f := ("query", 3, .query)) (by decide) W.framed (room.inner (by decide) (by decide)) wrapper small'
      fun c' same => ?_
    refine Eq.trans ?_ (tells_run (a := c'.page.query (nodeNumber? x) s.toText true) ((same.trans page).symm ▸ told))
    rfl
  refine asked.bind fun array w₁ l₁ harray => ?_
  obtain ⟨t, vs, rfl, ht, wraps⟩ := harray
  have head := WrapsAll.head wraps
  rw [hi] at head
  exact .of_ok (firstOf_run (W.framed.later l₁).toIntact ht (WrapsAll.truthy wraps)) head

/-- The closest element that a selector matches, if it is found within the limit of loops. -/
theorem Yields.closest {s : CodeUnits} {i j : Nat} (room : c.Room 5 21) (h : Wraps i v w.realm.objects)
    (hj : d.numbered.firstMatch s.toText ((d.numbered.line i).take (c.config.loopLimit + 2)) = .ok (some j)) :
    Yields ((kernel (n + 6)).callWith v "closest" s) c w (Wraps j) := by
  obtain ⟨e, selector, f, he, read, found, hf, few⟩ := exists_find?_of_firstMatch hj
  have loop := (YieldsAfter.closest (n := n) page small W room read he h).within (Nat.le_of_lt_succ few)
  rw [found] at loop
  refine loop.mono fun u os hu => ?_
  obtain ⟨k, hk, wraps⟩ := hu
  exact NumberedDocument.element_inj hk hf ▸ wraps

/-- Going up from a node. -/
theorem Yields.parentOf {i : Nat} (room : c.Room 3 12) (few : i < 2 ^ 53) (h : Wraps i v w.realm.objects)
    (hp : d.numbered.parent (some i) = .ok place) :
    Yields ((kernel (n + 4)).propertyOf v "parentNode") c w (Stands w.realm.document place) := by
  obtain ⟨r, rfl, kept⟩ := h
  cases place with
  | none => exact .parentNode_none page W.toIntact kept.toIsWrapper few hp room
  | some j =>
    have parent := Nat.lt_of_lt_of_le (NumberedDocument.lt_of_parent hp) small
    exact .parentNode_some page W.toIntact kept.toIsWrapper few hp parent room

/-- The first or the last of the nodes that stand in a node, or null if none does. -/
theorem Yields.childOf {r : Ref} {x : Float} {last elementsOnly : Bool} {is : List Nat} (room : c.Room 5 24)
    (hr : IsOpenWrapper w.realm.objects r (.number x)) (hx : nodeNumber? x = scope)
    (hc : d.numbered.children scope elementsOnly = .ok is) (few : last = true → is.length ≤ 4294967295)
    (none : is = [] → w.realm.NoneInFront) :
    Yields ((kernel (n + 6)).propertyOf (.object r) (CodeUnits.ofString (Neighbour.child last elementsOnly).name)) c w
      (WrapsOption (if last then is.getLast? else is.head?)) := by
  have within : ∀ j ∈ is, j < 2 ^ 53 := fun j hj => Nat.lt_of_lt_of_le (NumberedDocument.lt_of_children hc j hj) small
  have asked {q : String × NodeProperty} (hq : q ∈ nodeProperties) (registers : (NodeFunction.get q.2).registers ≤ 1)
      (asks : ∀ k : Kernel, k.nodeProperty q.2 (.object r) = do
        let array ← k.propertyOf (.object r) (CodeUnits.ofString (cond elementsOnly "children" "childNodes"))
        if last then k.lastOf array else k.firstOf array) :
      Yields ((kernel (n + 6)).propertyOf (.object r) (CodeUnits.ofString q.1)) c w
        (WrapsOption (if last then is.getLast? else is.head?)) := by
    refine .getter hq W.toIntact hr.toIsWrapper (room.mono (by decide) (by decide)) ?_
    rw [asks]
    refine (Yields.childrenOf (n := n) (c := c.inner _) page W.framed.toIntact hr.toIsWrapper hx elementsOnly hc within
      (room.inner (by decide) (by omega))).bind fun array w₁ l₁ harray => ?_
    exact .endOf harray (W.framed.later l₁).toIntact few fun empty =>
      ((none empty).later W.toIntact (.framed w)).later W.framed.toIntact l₁
  cases last <;> cases elementsOnly
  · exact asked (q := ("firstChild", .firstChild)) (by decide) (by decide) fun _ => rfl
  · exact asked (q := ("firstElementChild", .firstElementChild)) (by decide) (by decide) fun _ => rfl
  · exact asked (q := ("lastChild", .lastChild)) (by decide) (by decide) fun _ => rfl
  · exact asked (q := ("lastElementChild", .lastElementChild)) (by decide) (by decide) fun _ => rfl

/-- What stands beside a node or the document, or null if nothing does. -/
theorem Yields.siblingOf {r : Ref} {x : Float} {forward elementsOnly : Bool} {found : Option Nat} (room : c.Room 5 24)
    (hr : IsOpenWrapper w.realm.objects r (.number x)) (hx : nodeNumber? x = scope)
    (hs : d.numbered.sibling scope forward elementsOnly = .ok found) :
    Yields ((kernel (n + 6)).propertyOf (.object r) (CodeUnits.ofString (Neighbour.sibling forward elementsOnly).name)) c w
      (WrapsOption found) := by
  have near : ∀ j, found = some j → j < 2 ^ 53 := by
    rintro j rfl
    exact Nat.lt_of_lt_of_le (NumberedDocument.lt_of_sibling hs) small
  have asked {q : String × NodeProperty} (hq : q ∈ nodeProperties) (registers : (NodeFunction.get q.2).registers = 0)
      (asks : ∀ k : Kernel, k.nodeProperty q.2 (.object r) = k.wrap (k.askOf (.object r) "sibling"
        [.number (cond forward 1.0 (-1.0)), .bool elementsOnly])) :
      Yields ((kernel (n + 6)).propertyOf (.object r) (CodeUnits.ofString q.1)) c w (WrapsOption found) := by
    refine .getter hq W.toIntact hr.toIsWrapper (room.mono (by decide) (by decide)) ?_
    rw [asks, registers]
    refine Yields.wrapOption (n := n + 2) (c := c.inner 2) W.framed.toIntact near (room.inner (by decide) (by decide)) ?_
    refine (holding_askOf_run (n := n + 4) (c := c.inner 2) 2 [.number (cond forward 1.0 (-1.0)), .bool elementsOnly]
      W.framed.toIntact hr.toIsWrapper (f := ("sibling", 3, .sibling)) (by decide)
      (room.inner (by decide) (by decide))).trans ?_
    exact sibling_run (c := (c.inner 2).holding 2) page hx hs
  cases forward <;> cases elementsOnly
  · exact asked (q := ("previousSibling", .previousSibling)) (by decide) rfl fun _ => rfl
  · exact asked (q := ("previousElementSibling", .previousElementSibling)) (by decide) rfl fun _ => rfl
  · exact asked (q := ("nextSibling", .nextSibling)) (by decide) rfl fun _ => rfl
  · exact asked (q := ("nextElementSibling", .nextElementSibling)) (by decide) rfl fun _ => rfl

/-- What is read of a node to come to one near it. -/
theorem Yields.beside {q : Neighbour} (room : c.Room 5 24) (few : ∀ i, scope = some i → i < 2 ^ 53)
    (h : Stands w.realm.document scope v w.realm.objects) (hq : q.place? d scope = some place) :
    Yields ((kernel (n + 6)).propertyOf v (CodeUnits.ofString q.name)) c w (Stands w.realm.document place) := by
  cases q with
  | ownerDocument =>
    obtain ⟨i, rfl, rfl⟩ := Option.map_eq_some_iff.mp hq
    obtain ⟨r, rfl, kept⟩ := h
    obtain ⟨s, document, hs, -⟩ := W.document
    refine .getter (q := ("ownerDocument", .ownerDocument)) (by decide) W.toIntact kept.toIsWrapper
      (room.mono (by decide) (by decide)) ?_
    rw [Kernel.nodeProperty]
    refine .of_bind (documentValue_run rfl) ?_
    rw [show w.framed.realm.document = w.realm.document from rfl, document,
      show (Value.object r).strictEq (.object s) = false from
        beq_false_of_ne (wrapper_ne_document (few i rfl) kept.toIsWrapper hs)]
    exact .of_ok rfl rfl
  | parentNode =>
    obtain ⟨i, rfl, parent⟩ := Option.bind_eq_some_iff.mp hq
    exact .parentOf page small W (room.mono (by decide) (by decide)) (few i rfl) h (eq_ok_of_toOption parent)
  | parentElement =>
    obtain ⟨i, rfl, hp⟩ := Option.bind_eq_some_iff.mp hq
    obtain ⟨up, parent, hp⟩ := Option.bind_eq_some_iff.mp hp
    obtain ⟨j, rfl, rfl⟩ := Option.map_eq_some_iff.mp hp
    obtain ⟨r, rfl, kept⟩ := h
    have above := eq_ok_of_toOption parent
    obtain ⟨e, he⟩ := NumberedDocument.exists_element_of_parent above
    exact .parentElement_some (n := n + 1) page W.toIntact kept.toIsWrapper (few i rfl) above
      (Nat.lt_of_lt_of_le (lt_of_element he) small) he (room.mono (by decide) (by decide))
  | child last elementsOnly =>
    obtain ⟨is, children, hi⟩ := Option.bind_eq_some_iff.mp hq
    obtain ⟨i, one, rfl⟩ := Option.map_eq_some_iff.mp hi
    obtain ⟨r, x, rfl, wrapper, hx⟩ := h.wrapper W few
    obtain ⟨found, bound⟩ := Neighbour.endOf_eq_some_iff.mp one
    have notEmpty : is ≠ [] := List.ne_nil_of_mem (Neighbour.endOf_mem one)
    have read := Yields.childOf (n := n) page small W room wrapper hx (eq_ok_of_toOption children) bound
      fun empty => absurd empty notEmpty
    rwa [found] at read
  | sibling forward elementsOnly =>
    obtain ⟨found, sibling, hj⟩ := Option.bind_eq_some_iff.mp hq
    obtain ⟨j, rfl, rfl⟩ := Option.map_eq_some_iff.mp hj
    obtain ⟨r, x, rfl, wrapper, hx⟩ := h.wrapper W few
    exact .siblingOf page small W room wrapper hx (eq_ok_of_toOption sibling)

/-- The element with an id. -/
theorem Yields.identified {id : CodeUnits} {i : Nat} (room : c.Room 4 22)
    (hi : (d.withId? id.toText).bind d.numbered.table.position? = some i) :
    Yields ((kernel (n + 5)).callWith w.realm.document "getElementById" id) c w (Wraps i) := by
  obtain ⟨r, document, ⟨g, a, b, p, own, hg⟩, -⟩ := W.documentMethods
  obtain ⟨e, -, position⟩ := Option.bind_eq_some_iff.mp hi
  have few := Nat.lt_of_lt_of_le (d.numbers.lt_of_position position) small
  have inner : (c.inner 4).Room 1 5 := room.inner (by decide) (by decide)
  have room' : ((c.inner 4).holding 2).Room 1 3 := inner.holding rfl
  rw [document]
  refine .callFound (lookUp_own own) hg (room.mono (by decide) (by decide)) ?_
  refine Yields.wrap (n := n + 1) _ W.framed.toIntact few (room.inner (by decide) (by decide)) ?_
  have text : (holding 2 ((kernel (n + 4)).asText (.text id))).act .own ((c.inner 4).holding 2) w.framed =
      .ok (.text id) w.framed :=
    asText_run (c := ((c.inner 4).holding 2).holding 2) W.framed id (room'.holding rfl)
  refine (bind_of_ok text _).trans ?_
  refine (ask_run (n := n + 3) (c := (c.inner 4).holding 2) [.text id] W.framed.toIntact
    (q := ("byId", 1, .byId)) (by decide) (room'.mono (by decide) (by decide))).trans ?_
  change EStateM.Result.ok (numberValue (c.page.byId id.toText)) w.framed = _
  rw [page, show d.numbered.byId id.toText = some i from hi]
  rfl

/-- A part of the document that is one of the elements in its root. -/
theorem Yields.namedPart {q : String × DocumentPart} (names : List String) (room : c.Room 6 27) (hq : q ∈ documentParts)
    (asks : ∀ k : Kernel, k.documentPart q.2 = k.rootChild names) (some_names : names.length < 2 ^ 53) {e : Option Element}
    (he : e = d.root.children.find? fun e => names.contains e.localName) {i : Nat}
    (hi : e.bind d.numbered.table.position? = some i) :
    Yields ((kernel (n + 6)).propertyOf w.realm.document (CodeUnits.ofString q.1)) c w (Wraps i) := by
  obtain ⟨f, found, position⟩ := Option.bind_eq_some_iff.mp hi
  have named := Yields.namedChild (n := n) page W.toIntact small room q hq asks some_names
  rw [← he, found] at named
  refine named.mono fun v os hv => ?_
  obtain ⟨j, hj, wraps⟩ := hv
  obtain rfl := Option.some.inj (position.symm.trans
    ((NumberedDocument.position_eq_some (NumberedDocument.mem_of_element hj)).mpr hj))
  exact wraps

/-- A part of the document. -/
theorem Yields.partOf {q : DocumentPart} {limit : Nat} (room : c.Room 6 27)
    (hq : (Way.part q).place? d limit = some place) :
    Yields ((kernel (n + 6)).propertyOf w.realm.document (CodeUnits.ofString q.name)) c w
      (Stands w.realm.document place) := by
  cases q with
  | root =>
    cases hq
    refine (Yields.documentElement (n := n + 2) d W.toIntact (room.mono (by decide) (by decide))).mono fun v os hv => ?_
    obtain ⟨i, hi, wraps⟩ := hv
    obtain rfl := NumberedDocument.element_inj hi (NumberedDocument.element_zero d)
    exact wraps
  | head =>
    obtain ⟨i, hi, rfl⟩ := Option.map_eq_some_iff.mp hq
    exact .namedPart page small W (q := ("head", .head)) ["head"] room (by decide) (fun _ => rfl) (by decide) (head?_eq d) hi
  | body =>
    obtain ⟨i, hi, rfl⟩ := Option.map_eq_some_iff.mp hq
    exact .namedPart page small W (q := ("body", .body)) ["body", "frameset"] room (by decide) (fun _ => rfl) (by decide)
      (body?_eq d) hi
  | title => cases hq

end Steps

/-! ### Names -/

/-- The scope that declares a name, among so many going outwards. -/
def slotFrom (scopes : Array Scope) : Nat → Option ScopeRef → Name → Option (ScopeRef × Slot)
  | 0, _, _ => none
  | _, none, _ => none
  | n + 1, some s, x =>
    let scope := scopes[s]?.getD default
    match scope.slots[x]? with
    | some slot => some (s, slot)
    | none => slotFrom scopes n scope.parent x

theorem findSlotFrom_run {l : Finding} (n : Nat) (s : Option ScopeRef) (x : Name) :
    (findSlotFrom n s x).act l c w = .ok (slotFrom w.realm.scopes n s x) w := by
  induction n generalizing s with
  | zero => rfl
  | succ n ih =>
    cases s with
    | none => rfl
    | some s =>
      rw [findSlotFrom, slotFrom, bind_of_ok (a := w.realm.scopes[s]?.getD default) rfl]
      cases (w.realm.scopes[s]?.getD default).slots[x]? with
      | some slot => rfl
      | none => exact ih _

/-- No scope of a frame declares a name. -/
def Frame.IsFree (fr : Frame) (m : Realm) (x : Name) : Prop :=
  slotFrom m.scopes (m.scopes.size + 1) fr.scope x = none

/-- A name that no scope declares has the value that it has in the outermost one. -/
theorem lookup_run {k : Kernel} {fr : Frame} {x : Name} {a b e : Bool} (free : fr.IsFree w.realm x)
    (own : (objectAt w.realm.objects Intrinsic.global.ref).own? x = some (.data v a b e)) :
    k.lookup fr x c w = .ok v w := by
  have slot : findSlot fr x c w = .ok none w :=
    (bind_of_ok realm_run _).trans ((findSlotFrom_run _ _ x).trans (congrArg (EStateM.Result.ok · w) free))
  have found : k.lookup? fr x c w = .ok (some v) w := by
    rw [Kernel.lookup?, bind_of_ok slot]
    exact global?_run own
  rw [Kernel.lookup, bind_of_ok found]
  rfl

/-! ### Expressions -/

section Expressions

variable {k : Kernel} {fr : Frame} {e : Expr} {P Q : Value → Array Obj → Prop}

theorem Yields.member {key : Name} (h : Yields (e.run k fr) c w P)
    (rest : ∀ v w', w.realm.Later w'.realm → P v w'.realm.objects → Yields (k.propertyOf v key) c w' Q) :
    Yields ((Expr.member e key).run k fr) c w Q := by
  rw [Expr.run]
  exact h.bind rest

theorem Yields.call {key : Name} {s : CodeUnits} (h : Yields (e.run k fr) c w P)
    (rest : ∀ v w', w.realm.Later w'.realm → P v w'.realm.objects → Yields (k.callWith v key s) c w' Q) :
    Yields ((Expr.call (.member e key) [.text s]).run k fr) c w Q := by
  have called : (Expr.call (.member e key) [.text s]).run k fr c w = (e.run k fr >>= fun v => k.callWith v key s) c w := by
    rw [Expr.run]
    rfl
  exact .of_run_eq called (h.bind rest)

theorem Yields.selected {l : Selection} (h : Yields (e.run k fr) c w P)
    (rest : ∀ v w', w.realm.Later w'.realm → P v w'.realm.objects → Yields (l.read k v) c w' Q) :
    Yields ((l.expr e).run k fr) c w Q := by
  cases l with
  | matching s => exact h.call rest
  | tagged s => exact h.call rest
  | classed s => exact h.call rest
  | kids elementsOnly => exact h.member rest

theorem Yields.index {x : Float} (h : Yields (e.run k fr) c w P)
    (rest : ∀ v w', w.realm.Later w'.realm → P v w'.realm.objects → Yields (k.readIndex v (.number x)) c w' Q) :
    Yields ((Expr.index e (.number x)).run k fr) c w Q := by
  have read : (Expr.index e (.number x)).run k fr c w = (e.run k fr >>= fun v => k.readIndex v (.number x)) c w := by
    rw [Expr.run]
    rfl
  exact .of_run_eq read (h.bind rest)

end Expressions

/-- A script comes by a way to where a program comes. -/
theorem Yields.way {fr : Frame} (page : c.page = d.numbered) (small : d.nodes.length ≤ 2 ^ 53) (W : w.realm.Whole)
    (free : fr.IsFree w.realm "document") (room : c.Room 6 27) (p : Way)
    (h : p.place? d c.config.loopLimit = some place) :
    Yields (p.expr.run (kernel (n + 6)) fr) c w (Stands w.realm.document place) := by
  have document : Yields ((Expr.name "document").run (kernel (n + 6)) fr) c w
      fun v _ => v = w.realm.document := by
    obtain ⟨a, b, e, own⟩ := W.named
    rw [Expr.run]
    exact .of_ok (lookup_run free own) rfl
  have few {p : Way} {scope : Option Nat} (h : p.place? d c.config.loopLimit = some scope) :
      ∀ i, scope = some i → i < 2 ^ 53 := fun i hi => Nat.lt_of_lt_of_le (Way.lt_of_place (hi ▸ h)) small
  -- Each step of a way starts at what the way so far stands for, in the world that its evaluation left.
  induction p generalizing place with
  | document =>
    cases h
    exact document
  | part q =>
    refine document.member fun v w' later hv => ?_
    rw [hv, ← later.document]
    exact .partOf page small (W.later later) room h
  | identified id =>
    obtain ⟨i, hi, rfl⟩ := Option.map_eq_some_iff.mp h
    refine document.call fun v w' later hv => ?_
    rw [hv, ← later.document]
    exact Yields.identified (n := n + 1) page small (W.later later) (room.mono (by decide) (by decide)) hi
  | first p s ih =>
    obtain ⟨scope, hp, h⟩ := Option.bind_eq_some_iff.mp h
    obtain ⟨among, hs, h⟩ := Option.bind_eq_some_iff.mp h
    obtain ⟨es, answer, h⟩ := Option.bind_eq_some_iff.mp h
    obtain ⟨i, hi, rfl⟩ := Option.map_eq_some_iff.mp h
    refine (ih hp).call fun v w' later hv => ?_
    rw [← later.document] at hv
    exact .firstMatch page small (W.later later) (room.mono (by decide) (by decide)) (few hp) hv hs
      (eq_ok_of_toOption answer) hi
  | closest p s ih =>
    obtain ⟨scope, hp, h⟩ := Option.bind_eq_some_iff.mp h
    obtain ⟨i, rfl, hi⟩ := Option.bind_eq_some_iff.mp h
    obtain ⟨found, answer, hj⟩ := Option.bind_eq_some_iff.mp hi
    obtain ⟨j, rfl, rfl⟩ := Option.map_eq_some_iff.mp hj
    refine (ih hp).call fun v w' later hv => ?_
    exact .closest page small (W.later later) (room.mono (by decide) (by decide)) hv (eq_ok_of_toOption answer)
  | item p l m ih =>
    obtain ⟨scope, hp, h⟩ := Option.bind_eq_some_iff.mp h
    obtain ⟨is, members, h⟩ := Option.bind_eq_some_iff.mp h
    obtain ⟨i, hi, rfl⟩ := Option.map_eq_some_iff.mp h
    refine Yields.index (P := IsArrayOf Wraps is) ((ih hp).selected fun v w' later hv => ?_)
      fun v w' _ hv => .readIndex hv m hi
    rw [← later.document] at hv
    obtain ⟨r, x, rfl, wrapper, hx⟩ := hv.wrapper (W.later later) (few hp)
    exact .selection page small (W.later later) (room.mono (by decide) (by decide)) wrapper hx members
  | beside p q ih =>
    obtain ⟨scope, hp, hq⟩ := Option.bind_eq_some_iff.mp h
    refine (ih hp).member fun v w' later hv => ?_
    rw [← later.document] at hv ⊢
    exact .beside page small (W.later later) (room.mono (by decide) (by decide)) (few hp) hv hq

end Pagewalk.Script
