import Pagewalk.Proofs.Script.Navigation

/-!
# Lists that scripts ask for

A script gets lists of wrappers from the document and from elements: by selector, by tag name, by classes, and of what
stands in them. What it gets are the wrappers of the nodes that a program finds there, as far as they have numbers: a
query of the whole document also meets what was taken out of the tree, and leaves that out.
-/

namespace Pagewalk

/-! ### Elements without numbers -/

namespace Document

variable {d : Document} {e : Element} {i : Nat}

theorem elements_subset (d : Document) : ∀ e ∈ d.elements, e ∈ d.inCreationOrder := fun _ he =>
  (List.mergeSort_perm _ _).mem_iff.mpr (List.mem_append_left _ he)

/-- What was taken out of the tree has the key of no node that is in it. -/
theorem key_ne_of_detached {t u : Trail} (ht : t ∈ d.detachedTrails) (hu : u ∈ d.trails) : t.key ≠ u.key := by
  obtain ⟨⟨n, i⟩, hn, ht⟩ := List.mem_flatMap.mp ht
  obtain ⟨below, rfl⟩ := Node.mem_trails ht
  obtain ⟨below', rfl⟩ := Node.mem_trails hu
  intro same
  rw [Trail.key, Trail.key, List.map_append, List.map_append] at same
  have place : i = 0 := List.singleton_inj.mp (List.append_inj' same rfl).2
  have first := List.le_snd_of_mem_zipIdx hn
  omega

/-- The number of an element that a query meets is that of this element. -/
theorem element_of_position (he : e ∈ d.inCreationOrder) (hi : d.numbered.table.position? e = some i) :
    d.numbered.element i = .ok e := by
  rcases List.mem_append.mp ((List.mergeSort_perm _ _).mem_iff.mp he) with inside | outside
  · exact (NumberedDocument.position_eq_some inside).mp hi
  · obtain ⟨t, ht, found⟩ := List.mem_filterMap.mp (List.mem_filter.mp outside).1
    obtain ⟨n, hn, key⟩ := Option.map_eq_some_iff.mp
      (List.getElem?_map ▸ (d.numbers.positions e.key i).mp hi)
    obtain ⟨u, hu, hl⟩ := Document.mem_nodes.mp (List.mem_of_getElem? hn)
    have same : t.key = u.key := by
      rw [← Element.trail_of_ofTrail? found, ← Listed.key_of_ofTrail? hl, key]
      rfl
    exact absurd same (key_ne_of_detached ht hu)

/-- Where one looks for elements from a place: in the document, or below the element of a number. -/
def scope? (d : Document) : Option Nat → Option (Option Element)
  | none => some none
  | some i => (d.numbered.element i).toOption.map some

end Document

namespace Script

open Text

theorem eq_ok_of_toOption {ε α : Type} {r : Except ε α} {a : α} (h : r.toOption = some a) : r = .ok a := by
  cases r with
  | error e => cases h
  | ok b => exact congrArg Except.ok (Option.some.inj h)

/-- A number means the place that it stands for. -/
theorem Means.of_scope {d : Document} {x : Float} {scope : Option Nat} {among : Option Element}
    (hx : nodeNumber? x = scope) (h : d.scope? scope = some among) : Means d x among := by
  cases scope with
  | none =>
    cases h
    exact .document hx
  | some i =>
    obtain ⟨e, he, rfl⟩ := Option.map_eq_some_iff.mp h
    exact .element hx (eq_ok_of_toOption he)

namespace Question

variable {d : Document} {scope : Option Nat} {among : Option Element} {q : Question} {es : List Element}

/-- What answers a question are elements that a query meets. -/
theorem mem_of_answer (hs : d.scope? scope = some among) (h : q.answer d among = .ok es) :
    ∀ e ∈ es, e ∈ d.inCreationOrder := by
  cases among with
  | some e =>
    cases scope with
    | none => cases hs
    | some i =>
      obtain ⟨f, hf, same⟩ := Option.map_eq_some_iff.mp hs
      obtain rfl := Option.some.inj same
      have inside := NumberedDocument.mem_of_element (eq_ok_of_toOption hf)
      exact fun g hg => d.elements_subset g (Document.descendants_subset inside ((answer_sublist h).subset hg))
  | none =>
    cases q with
    | all s =>
      rw [answer_all] at h
      obtain ⟨selector, -, rfl⟩ := Except.map_eq_ok h
      exact fun e he => (List.mem_filter.mp he).1
    | first s =>
      rw [answer_first] at h
      obtain ⟨selector, -, rfl⟩ := Except.map_eq_ok h
      exact fun e he => (List.mem_filter.mp (List.mem_of_mem_head? (Option.mem_toList.mp he))).1
    | tagged s =>
      cases h
      exact fun e he => d.elements_subset e (List.mem_filter.mp he).1

/-- The numbers of an answer are those of its elements that have numbers. -/
theorem read_of_answer {x : Float} (m : Means d x among) (h : q.answer d among = .ok es) :
    q.read d.numbered (nodeNumber? x) = .ok (d.numbered.table.positionsOf es) := by
  rw [read_eq m, h]

end Question

theorem lt_of_positionsOf {d : Document} {es : List Element} :
    ∀ i ∈ d.numbered.table.positionsOf es, i < d.nodes.length := by
  intro i hi
  obtain ⟨e, -, position⟩ := List.mem_filterMap.mp hi
  exact d.numbers.lt_of_position position

/-! ### Selections -/

/-- What a script asks of the document or of an element to get a list. -/
inductive Selection where
  /-- What matches a selector. -/
  | matching (selector : CodeUnits)
  /-- The elements with a tag name. -/
  | tagged (name : CodeUnits)
  /-- The elements with all of some classes. -/
  | classed (names : CodeUnits)
  /-- The nodes that stand in it, or the elements alone. -/
  | kids (elementsOnly : Bool)

namespace Selection

variable {d : Document} {scope : Option Nat} {l : Selection} {is : List Nat}

/-- The numbers of what a program finds; no list where the selector cannot be read, or where no element is. -/
def members (d : Document) (scope : Option Nat) : Selection → Option (List Nat)
  | matching s => do
    let among ← d.scope? scope
    ((Question.all s).answer d among).toOption.map d.numbered.table.positionsOf
  | tagged s => do
    let among ← d.scope? scope
    ((Question.tagged s).answer d among).toOption.map d.numbered.table.positionsOf
  | classed s => (d.scope? scope).map fun among =>
    let wanted := spaceWords s.toText
    let found := (among.elim d.elements (·.descendants)).filter fun e => wanted.all e.classes.contains
    if wanted.isEmpty then [] else d.numbered.table.positionsOf found
  | kids elementsOnly => (d.numbered.children scope elementsOnly).toOption

/-- The numbers that the document gives. -/
def numbers (p : NumberedDocument) (scope : Option Nat) : Selection → Except NodeFault (List Nat)
  | matching s => p.query scope s.toText false
  | tagged s => p.byTag scope s.toText
  | classed s => p.byClass scope s.toText
  | kids elementsOnly => p.children scope elementsOnly

/-- The numbers that a script is given are those of what a program finds. -/
theorem numbers_of_members {x : Float} (hx : nodeNumber? x = scope) (h : l.members d scope = some is) :
    l.numbers d.numbered scope = .ok is := by
  cases l with
  | matching s =>
    obtain ⟨among, hs, h⟩ := Option.bind_eq_some_iff.mp h
    obtain ⟨es, answer, rfl⟩ := Option.map_eq_some_iff.mp h
    have read := Question.read_of_answer (.of_scope hx hs) (eq_ok_of_toOption answer)
    rwa [hx] at read
  | tagged s =>
    obtain ⟨among, hs, h⟩ := Option.bind_eq_some_iff.mp h
    obtain ⟨es, answer, rfl⟩ := Option.map_eq_some_iff.mp h
    have read := Question.read_of_answer (.of_scope hx hs) (eq_ok_of_toOption answer)
    rwa [hx] at read
  | classed s =>
    obtain ⟨among, hs, rfl⟩ := Option.map_eq_some_iff.mp h
    rw [apply_ite Except.ok]
    refine ite_congr rfl (fun _ => rfl) fun _ => ?_
    cases scope with
    | none =>
      cases hs
      rfl
    | some i =>
      obtain ⟨e, he, rfl⟩ := Option.map_eq_some_iff.mp hs
      simp only [eq_ok_of_toOption he]
      rfl
  | kids elementsOnly => exact eq_ok_of_toOption h

theorem lt_of_members (h : l.members d scope = some is) : ∀ i ∈ is, i < d.nodes.length := by
  cases l with
  | matching s =>
    obtain ⟨among, -, h⟩ := Option.bind_eq_some_iff.mp h
    obtain ⟨es, -, rfl⟩ := Option.map_eq_some_iff.mp h
    exact lt_of_positionsOf
  | tagged s =>
    obtain ⟨among, -, h⟩ := Option.bind_eq_some_iff.mp h
    obtain ⟨es, -, rfl⟩ := Option.map_eq_some_iff.mp h
    exact lt_of_positionsOf
  | classed s =>
    obtain ⟨among, -, rfl⟩ := Option.map_eq_some_iff.mp h
    dsimp only
    split_ifs
    · exact fun i hi => absurd hi List.not_mem_nil
    · exact lt_of_positionsOf
  | kids elementsOnly => exact NumberedDocument.lt_of_children (eq_ok_of_toOption h)

end Selection

/-! ### Realms in which scripts can ask -/

/-- Beside what belongs to nodes no script has changed their methods, the document or the maker of texts. -/
structure Realm.Whole (m : Realm) : Prop extends m.Intact where
  methods : ∀ f ∈ nodeMethods, HasMethod m.objects Intrinsic.nodes.ref (CodeUnits.ofString f.1) (.node f.2.2)
  texts : HasMethod m.objects Intrinsic.global.ref "String" .textMake
  named : ∃ isWritable isEnumerable isConfigurable, (objectAt m.objects Intrinsic.global.ref).own? "document" =
    some (.data m.document isWritable isEnumerable isConfigurable)
  documentMethods : ∃ r, m.document = .object r ∧ HasMethod m.objects r "getElementById" (.node .elementById) ∧
    ∀ f ∈ nodeMethods, (objectAt m.objects r).own? (CodeUnits.ofString f.1) = none

section Whole

variable {m m' : Realm} {c : Context} {w : World} {n : Nat} {r : Ref} {x : Float}

theorem Realm.Whole.later (W : m.Whole) (l : m.Later m') : m'.Whole := by
  have within (o : Intrinsic) : o.ref < m.objects.size :=
    Nat.lt_of_lt_of_le (by cases o <;> first | decide | (rename_i k; cases k <;> decide)) W.size
  have nodes := l.same (within .nodes) (by decide)
  have global := l.same (within .global) (by decide)
  obtain ⟨r, document, wraps, -⟩ := W.document
  obtain ⟨s, document', byId, free⟩ := W.documentMethods
  obtain rfl : s = r := Value.object.inj (document'.symm.trans document)
  have same := wraps.same l
  exact {
    toIntact := W.toIntact.later l
    methods := fun f hf => (W.methods f hf).later nodes l
    texts := W.texts.later global l
    named := by
      rw [global, l.document]
      exact W.named
    documentMethods := ⟨s, l.document.trans document, byId.later same l, same ▸ free⟩ }

theorem Realm.Whole.framed (W : w.realm.Whole) : w.framed.realm.Whole := W.later (.framed w)

theorem Realm.Whole.openDocument (W : m.Whole) :
    ∃ r, m.document = .object r ∧ IsOpenWrapper m.objects r (.number (-1.0)) := by
  obtain ⟨r, document, wraps, -⟩ := W.document
  obtain ⟨s, document', -, free⟩ := W.documentMethods
  obtain rfl : s = r := Value.object.inj (document'.symm.trans document)
  exact ⟨s, document, wraps, free⟩

/-- The maker of texts leaves a text as it is. -/
theorem asText_run (W : w.realm.Whole) (s : CodeUnits) (room : c.Room 1 1) :
    (kernel (n + 2)).asText (.text s) c w = .ok (.text s) w := by
  obtain ⟨g, a, b, e, own, hg⟩ := W.texts
  rw [Kernel.asText, Kernel.callGlobal, bind_of_ok (global_run own), apply_run hg rfl room]
  rfl

/-- A method of a node is read off its wrapper. -/
theorem exists_method {number : Value} {q : String × Nat × NodeFunction} (hq : q ∈ nodeMethods) (W : w.realm.Whole)
    (hr : IsOpenWrapper w.realm.objects r number) (k : Kernel) :
    ∃ g, k.propertyOf (.object r) (CodeUnits.ofString q.1) c w = .ok (.object g) w ∧
      IsFunction w.realm.objects g (.node q.2.2) := by
  obtain ⟨g, a, b, e, own, hg⟩ := W.methods q hq
  obtain ⟨more, size⟩ := W.exists_size
  refine ⟨g, ?_, hg⟩
  rw [propertyOf_run, size, lookUp_parent (hr.methods q hq) hr.parent, lookUp_own own]
  rfl

/-- A method of a node is called. -/
theorem Yields.invokeMethod {P : Value → Array Obj → Prop} {number : Value} {args : List Value}
    {q : String × Nat × NodeFunction} (hq : q ∈ nodeMethods) (W : w.realm.Whole)
    (hr : IsOpenWrapper w.realm.objects r number) (room : c.Room 1 (2 + args.length + 1))
    (does : Yields ((kernel n).nodeFunction q.2.2 (.object r) args) (c.inner (2 + args.length + q.2.2.registers)) w.framed
      P) : Yields ((kernel (n + 1)).invoke (.object r) (CodeUnits.ofString q.1) args) c w P := by
  obtain ⟨g, read, hg⟩ := exists_method (c := c) hq W hr (kernel (n + 1))
  exact .of_bind read (.apply q.2.2.registers (.object r) hg rfl (fun _ => rfl) room does)

/-- A script calls a method of a value with a text. -/
def Kernel.callWith (k : Kernel) (o : Value) (key : Name) (s : CodeUnits) : Run Value := do
  let g ← k.propertyOf o key
  k.apply g o [.text s]

/-- A function of nodes that is found on an object is called with a text. -/
theorem Yields.callFound {P : Value → Array Obj → Prop} {key : Name} {s : CodeUnits} {g : Ref} {a b e : Bool}
    {f : NodeFunction} (found : lookUp w.realm.objects (w.realm.objects.size + 1) r key = some (.data (.object g) a b e))
    (hg : IsFunction w.realm.objects g (.node f)) (room : c.Room 1 4)
    (does : Yields ((kernel n).nodeFunction f (.object r) [.text s]) (c.inner (2 + 1 + f.registers)) w.framed P) :
    Yields ((kernel (n + 1)).callWith (.object r) key s) c w P := by
  have read : (kernel (n + 1)).propertyOf (.object r) key c w = .ok (.object g) w := by
    rw [propertyOf_run, found]
    rfl
  have applied : Yields ((kernel (n + 1)).apply (.object g) (.object r) [.text s]) c w P :=
    .apply f.registers (.object r) hg rfl (fun _ => rfl) room does
  exact .of_bind read applied

/-- A method of a node is called with a text. -/
theorem Yields.callWith {P : Value → Array Obj → Prop} {number : Value} {s : CodeUnits}
    {q : String × Nat × NodeFunction} (hq : q ∈ nodeMethods) (W : w.realm.Whole)
    (hr : IsOpenWrapper w.realm.objects r number) (room : c.Room 1 4)
    (does : Yields ((kernel n).nodeFunction q.2.2 (.object r) [.text s]) (c.inner (2 + 1 + q.2.2.registers)) w.framed P) :
    Yields ((kernel (n + 1)).callWith (.object r) (CodeUnits.ofString q.1) s) c w P :=
  .invokeMethod hq W hr room does

/-- While values are kept for later, the document is asked about a text. -/
theorem holding_query_run {s : CodeUnits} (W : w.realm.Whole) (hr : IsOpenWrapper w.realm.objects r (.number x))
    {f : String × Nat × Bridge} (hf : f ∈ bridgeFunctions) (more : List Value) (room : c.Room 1 6) :
    holding 2 (do
      let text ← holding 3 ((kernel (n + 2)).asText (.text s))
      (kernel (n + 2)).askOf (.object r) (CodeUnits.ofString f.1) (text :: more)) c w =
        f.2.2.run (kernel (n + 1)) (.number x :: .text s :: more) (c.holding 2) w := by
  have inner : (c.holding 2).Room 1 4 := room.holding rfl
  have asText : (holding 3 ((kernel (n + 2)).asText (.text s))).act .own (c.holding 2) w = .ok (.text s) w :=
    asText_run (c := (c.holding 2).holding 3) W s (inner.holding rfl)
  refine (bind_of_ok asText _).trans ?_
  exact askOf_run (c := c.holding 2) _ W.toIntact hr.toIsWrapper hf (inner.mono (by decide) (by decide))

/-- A script reads a selection of a value. -/
def Selection.read (k : Kernel) (v : Value) : Selection → Run Value
  | matching s => k.callWith v "querySelectorAll" s
  | tagged s => k.callWith v "getElementsByTagName" s
  | classed s => k.callWith v "getElementsByClassName" s
  | kids elementsOnly => k.propertyOf v (CodeUnits.ofString (cond elementsOnly "children" "childNodes"))

/-- The document tells numbers, once it was asked for them. -/
theorem tells_run {l : Finding} {a : Except NodeFault (List Nat)} {is : List Nat} (h : a = .ok is) :
    (do Script.makeArray ((← ofNodeFault a).map .nat) : Run Value).act l c w =
      (Script.makeArray (is.map .nat)).act l c w := by
  rw [h]
  rfl

/-- A method of nodes that asks the document about a text and wraps the answer. -/
structure AsksText (q : String × Nat × NodeFunction) (f : String × Nat × Bridge) (more : List Value) : Prop where
  method : q ∈ nodeMethods
  bridge : f ∈ bridgeFunctions
  registers : q.2.2.registers = 1
  asks : ∀ (k : Kernel) (this : Value) (s : CodeUnits) (c : Context) (w : World),
    k.nodeFunction q.2.2 this [.text s] c w = k.wrapAll (do
      let text ← holding 3 (k.asText (.text s))
      k.askOf this (CodeUnits.ofString f.1) (text :: more)) c w

theorem asksText_query :
    AsksText ("querySelectorAll", 1, .method .querySelectorAll) ("query", 3, .query) [.bool false] where
  method := by simp [nodeMethods, nodeMethod]
  bridge := by decide
  registers := rfl
  asks k this s c w := bind_of_ok read_run _

theorem asksText_byTag : AsksText ("getElementsByTagName", 1, .method .getElementsByTagName) ("byTag", 2, .byTag) [] where
  method := by simp [nodeMethods, nodeMethod]
  bridge := by decide
  registers := rfl
  asks k this s c w := bind_of_ok read_run _

theorem asksText_byClass :
    AsksText ("getElementsByClassName", 1, .method .getElementsByClassName) ("byClass", 2, .byClass) [] where
  method := by simp [nodeMethods, nodeMethod]
  bridge := by decide
  registers := rfl
  asks k this s c w := bind_of_ok read_run _

/-- What the document tells about a text is wrapped. -/
theorem Yields.wrapAsked {f : String × Nat × Bridge} {more : List Value} {s : CodeUnits} {is : List Nat}
    (hf : f ∈ bridgeFunctions) (W : w.realm.Whole) (room : c.Room 3 18)
    (hr : IsOpenWrapper w.realm.objects r (.number x)) (few : ∀ i ∈ is, i < 2 ^ 53)
    (tells : ∀ c', c'.page = c.page → f.2.2.run (kernel (n + 3)) (.number x :: .text s :: more) c' w =
      Script.makeArray (is.map .nat) c' w) :
    Yields ((kernel (n + 4)).wrapAll (do
      let text ← holding 3 ((kernel (n + 4)).asText (.text s))
      (kernel (n + 4)).askOf (.object r) (CodeUnits.ofString f.1) (text :: more))) c w (IsArrayOf Wraps is) := by
  refine .wrapAll W.toIntact few (room.mono (by omega) (by omega)) ?_
  exact (holding_query_run W hr hf more (room.mono (by omega) (by omega))).trans (tells _ rfl)

/-- A method that asks about a text gives the wrappers of the nodes whose numbers the document tells. -/
theorem Yields.asksText {q : String × Nat × NodeFunction} {f : String × Nat × Bridge} {more : List Value} {s : CodeUnits}
    {is : List Nat} (asks : AsksText q f more) (W : w.realm.Whole) (room : c.Room 4 22)
    (hr : IsOpenWrapper w.realm.objects r (.number x)) (few : ∀ i ∈ is, i < 2 ^ 53)
    (tells : ∀ c' w, c'.page = c.page → f.2.2.run (kernel (n + 3)) (.number x :: .text s :: more) c' w =
      Script.makeArray (is.map .nat) c' w) :
    Yields ((kernel (n + 5)).callWith (.object r) (CodeUnits.ofString q.1) s) c w (IsArrayOf Wraps is) := by
  refine .callWith asks.method W hr (room.mono (by omega) (by omega)) ?_
  rw [asks.registers]
  refine .of_run_eq (asks.asks _ _ _ _ _) ?_
  exact .wrapAsked asks.bridge W.framed (room.inner (by omega) (by omega)) hr few fun c' same => tells c' _ same

/-- What a script is given for a selection are the wrappers of the nodes that a program finds. -/
theorem Yields.selection {d : Document} {scope : Option Nat} {l : Selection} {is : List Nat}
    (page : c.page = d.numbered) (small : d.nodes.length ≤ 2 ^ 53) (W : w.realm.Whole) (room : c.Room 4 22)
    (hr : IsOpenWrapper w.realm.objects r (.number x)) (hx : nodeNumber? x = scope) (h : l.members d scope = some is) :
    Yields (l.read (kernel (n + 5)) (.object r)) c w (IsArrayOf Wraps is) := by
  have numbers := Selection.numbers_of_members hx h
  have few : ∀ i ∈ is, i < 2 ^ 53 := fun i hi => Nat.lt_of_lt_of_le (Selection.lt_of_members h i hi) small
  subst hx
  cases l with
  | matching s =>
    refine .asksText (q := ("querySelectorAll", 1, .method .querySelectorAll)) asksText_query W room hr few
      fun c' w same => ?_
    refine Eq.trans ?_ (tells_run (a := c'.page.query (nodeNumber? x) s.toText false) (same.trans page ▸ numbers))
    rfl
  | tagged s =>
    refine .asksText (q := ("getElementsByTagName", 1, .method .getElementsByTagName)) asksText_byTag W room hr few
      fun c' w same => ?_
    refine Eq.trans ?_ (tells_run (a := c'.page.byTag (nodeNumber? x) s.toText) (same.trans page ▸ numbers))
    rfl
  | classed s =>
    refine .asksText (q := ("getElementsByClassName", 1, .method .getElementsByClassName)) asksText_byClass W room hr few
      fun c' w same => ?_
    refine Eq.trans ?_ (tells_run (a := c'.page.byClass (nodeNumber? x) s.toText) (same.trans page ▸ numbers))
    refine (bind_of_ok (a := nodeNumber? x) rfl _).trans ?_
    refine (bind_of_ok (a := s.toText) rfl _).trans ?_
    exact bind_of_ok (a := c'.page) rfl _
  | kids elementsOnly =>
    exact .childrenOf page W.toIntact hr.toIsWrapper rfl elementsOnly numbers few (room.mono (by decide) (by decide))

end Whole

end Script

end Pagewalk
