import Pagewalk.Proofs.Document.Numbers
import Pagewalk.Proofs.Page
import Pagewalk.Script.Calls

/-!
# Queries of scripts

A script asks the document by numbers, and a program asks it for elements. Both are the same questions: the numbers
that a script is given are those of the elements that the program gets, in the same order, and where the selector
cannot be read the script meets a syntax error. What is below an element of the document always has a number; a query
of the whole document might meet what was taken out of the tree, and is taken here to meet the document alone.
-/

namespace Pagewalk

/-! ### Elements that have numbers -/

namespace Document

variable {d : Document}

theorem nodup_elements (d : Document) : d.elements.Nodup := d.nodup_keys.of_map _

/-- What was taken out of the tree is not in the document. -/
theorem not_mem_of_detached {t : Trail} (h : t ∈ d.detachedTrails) : t ∉ d.trails := by
  intro own
  obtain ⟨below, rfl⟩ := Node.mem_trails own
  obtain ⟨⟨n, i⟩, hn, ht⟩ := List.mem_flatMap.mp h
  obtain ⟨below', same⟩ := Node.mem_trails ht
  have ends := (List.append_inj' same rfl).2
  have first := List.le_snd_of_mem_zipIdx hn
  have place := congrArg Step.place (List.singleton_inj.mp ends)
  simp only at first place
  omega

/-- A query that meets elements of the document alone meets each once. -/
theorem nodup_select {s : Selector} (home : ∀ e ∈ d.select s, e ∈ d.elements) : (d.select s).Nodup := by
  have order := (List.mergeSort_perm (d.elements ++ (d.detachedTrails.filterMap Element.ofTrail?).filter fun e =>
    !e.above.isEmpty) fun a b => decide (a.data.born ≤ b.data.born)).filter (·.matchesWithin none s)
  rw [List.filter_append] at order
  have none_out : ((d.detachedTrails.filterMap Element.ofTrail?).filter fun e => !e.above.isEmpty).filter
      (·.matchesWithin none s) = [] := by
    refine List.eq_nil_iff_forall_not_mem.mpr fun e he => ?_
    have inside := home e (order.mem_iff.mpr (List.mem_append_right _ he))
    obtain ⟨t, ht, hte⟩ := List.mem_filterMap.mp (List.mem_filter.mp (List.mem_filter.mp he).1).1
    rw [mem_elements, Element.trail_of_ofTrail? hte] at inside
    exact not_mem_of_detached ht inside
  rw [none_out, List.append_nil] at order
  exact order.nodup_iff.mpr (d.nodup_elements.filter _)

end Document

theorem Element.nodup_descendants (e : Element) : e.descendants.Nodup :=
  (Element.nodup_keys (Node.nodup_trailsOfAll e.trail 0 e.kids)).of_map _

/-- Numbers tell some elements: they are the numbers of these in their order, and lead back to them. -/
structure NumberedDocument.Tells (p : NumberedDocument) (is : List Nat) (es : List Element) : Prop where
  positions : is.map some = es.map p.table.position?
  elements : is.map p.element = es.map .ok
  nodup : is.Nodup

/-- The numbers of elements of the document tell them all. -/
theorem NumberedDocument.tells_positionsOf {d : Document} {es : List Element} (inside : ∀ e ∈ es, e ∈ d.elements)
    (once : es.Nodup) : d.numbered.Tells (d.numbered.table.positionsOf es) es := by
  have both : (d.numbered.table.positionsOf es).map some = es.map d.numbered.table.position? ∧
      (d.numbered.table.positionsOf es).map d.numbered.element = es.map .ok := by
    induction es with
    | nil => exact ⟨rfl, rfl⟩
    | cons e es ih =>
      obtain ⟨i, hi, found⟩ := exists_position (inside e List.mem_cons_self)
      obtain ⟨positions, elements⟩ :=
        ih (fun f hf => inside f (List.mem_cons_of_mem e hf)) (List.nodup_cons.mp once).2
      rw [NodeTable.positionsOf] at positions elements ⊢
      rw [List.filterMap_cons_some hi]
      exact ⟨by rw [List.map_cons, List.map_cons, positions, hi], by rw [List.map_cons, List.map_cons, elements, found]⟩
  refine ⟨both.1, both.2, .of_map d.numbered.element ?_⟩
  rw [both.2]
  exact once.map fun _ _ => Except.ok.inj

namespace Script

open Text

variable {α : Type} {k : Kernel} {d : Document} {c : Context} {w : World}

/-! ### Steps that throw -/

/-- A step throws an error of a kind. -/
def Throws (kind : ErrorKind) (step : Run α) (c : Context) (w : World) : Prop :=
  ∃ r w' o, step c w = .error (.thrown (.object r)) w' ∧ w'.realm.objects[r]? = some o ∧ o.shape = .error ∧
    o.parent = some (Intrinsic.errors kind).ref

theorem Obj.shape_setProperty (o : Obj) (key : Name) (p : Property) : (o.setProperty key p).shape = o.shape := by
  unfold setProperty
  split <;> rfl

theorem Obj.parent_setProperty (o : Obj) (key : Name) (p : Property) : (o.setProperty key p).parent = o.parent := by
  unfold setProperty
  split <;> rfl

theorem throws_fail (kind : ErrorKind) (message : String) (c : Context) (w : World) :
    Throws kind (fail kind message : Run α) c w :=
  ⟨w.realm.objects.size, _, _, rfl, Array.getElem?_push_size, Obj.shape_setProperty _ _ _, Obj.parent_setProperty _ _ _⟩

/-- What throws goes on to throw whatever would have come next. -/
theorem Throws.bind {β : Type} {kind : ErrorKind} {step : Run α} (h : Throws kind step c w) (next : α → Run β) :
    Throws kind (step >>= next) c w := by
  obtain ⟨r, w', o, eq, found⟩ := h
  refine ⟨r, w', o, ?_, found⟩
  change EStateM.bind (step c) (fun a => next a c) w = _
  rw [EStateM.bind, eq]

theorem not_throws_of_ok {kind : ErrorKind} {step : Run α} {v : α} {w' : World} (h : step c w = .ok v w') :
    ¬ Throws kind step c w := by
  rintro ⟨r, w'', o, eq, -⟩
  cases h.symm.trans eq

theorem throws_badSelector (selector asked cause : String) (c : Context) (w : World) :
    Throws .malformed (ofNodeFault (.error (.badSelector selector (.invalidSelector asked cause))) : Run α) c w :=
  throws_fail .malformed _ c _

/-! ### Questions -/

/-- What a script and a program both ask of a document or of one of its elements. -/
inductive Question where
  /-- All elements that match a selector. -/
  | all (selector : CodeUnits)
  /-- The first element that matches a selector. -/
  | first (selector : CodeUnits)
  /-- All elements with a tag name. -/
  | tagged (name : CodeUnits)

namespace Question

/-- The script puts the question, with a number for where to look. -/
def put (k : Kernel) (x : Float) : Question → Run Value
  | all s => Bridge.run k .query [.number x, .text s, .bool false]
  | first s => Bridge.run k .query [.number x, .text s, .bool true]
  | tagged s => Bridge.run k .byTag [.number x, .text s]

/-- What the program is answered, by the document or by an element. -/
def answer (d : Document) (scope : Option Element) : Question → Except Error (List Element)
  | all s => scope.elim (d.queryAll s.toText) (·.queryAll s.toText)
  | first s => (scope.elim (d.query s.toText) (·.query s.toText)).map Option.toList
  | tagged s => .ok (scope.elim (d.withTag s.toText) (·.withTag s.toText))

/-- The question, asked of the whole document, is answered with elements of the document alone. -/
def StaysIn (d : Document) (q : Question) : Prop := ∀ es, q.answer d none = .ok es → ∀ e ∈ es, e ∈ d.elements

end Question

/-- What a number that is handed over means: the document, or the element that has this number. -/
inductive Means (d : Document) (x : Float) : Option Element → Prop where
  | document (h : nodeNumber? x = none) : Means d x none
  | element {i : Nat} {e : Element} (h : nodeNumber? x = some i) (he : d.numbered.element i = .ok e) :
    Means d x (some e)

theorem Except.map_eq_ok {ε α β : Type} {f : α → β} {r : Except ε α} {b : β} (h : r.map f = .ok b) :
    ∃ a, r = .ok a ∧ b = f a := by
  cases r with
  | error e => cases h
  | ok a =>
    cases h
    exact ⟨a, rfl, rfl⟩

theorem Except.map_eq_error {ε α β : Type} {f : α → β} {r : Except ε α} {e : ε} (h : r.map f = .error e) :
    r = .error e := by
  cases r with
  | error e =>
    cases h
    rfl
  | ok a => cases h

namespace Question

/-- The answer that a document gives by numbers. -/
def read (p : NumberedDocument) (scope : Option Nat) : Question → Except NodeFault (List Nat)
  | all s => p.query scope s.toText false
  | first s => p.query scope s.toText true
  | tagged s => p.byTag scope s.toText

/-- The text that a question names. -/
def text : Question → String
  | all s => s.toText
  | first s => s.toText
  | tagged s => s.toText

/-- A question is put to the document by numbers. -/
theorem put_eq (k : Kernel) (x : Float) (q : Question) (c : Context) (w : World) :
    q.put k x c w =
      (do makeArray ((← ofNodeFault (q.read c.page (nodeNumber? x))).map .nat) : Run Value) c w := by
  cases q <;> rfl

/-- The numbers are those of the elements of the answer. -/
theorem read_eq {x : Float} {scope : Option Element} (m : Means d x scope) (q : Question) :
    q.read d.numbered (nodeNumber? x) =
      match q.answer d scope with
      | .ok es => .ok (d.numbered.table.positionsOf es)
      | .error e => .error (.badSelector q.text e) := by
  have own : d.numbered.document = d := rfl
  cases m with
  | document h =>
    rw [h]
    cases q with
    | all s =>
      simp only [read, answer, NumberedDocument.query, NumberedDocument.queryFault, Option.elim_none, own]
      cases d.queryAll s.toText <;> rfl
    | first s =>
      simp only [read, answer, NumberedDocument.query, NumberedDocument.queryFault, Option.elim_none, own]
      cases d.query s.toText <;> rfl
    | tagged s => rfl
  | @element i e h he =>
    rw [h]
    cases q with
    | all s =>
      simp only [read, answer, NumberedDocument.query, NumberedDocument.queryFault, Option.elim_some, he]
      cases e.queryAll s.toText <;> rfl
    | first s =>
      simp only [read, answer, NumberedDocument.query, NumberedDocument.queryFault, Option.elim_some, he]
      cases e.query s.toText <;> rfl
    | tagged s =>
      simp only [read, answer, NumberedDocument.byTag, Option.elim_some, he]
      rfl

/-- The elements that match a selector, of the document or below an element. -/
def matching (d : Document) (scope : Option Element) (s : Selector) : List Element := scope.elim (d.select s) (·.select s)

theorem answer_all (d : Document) (scope : Option Element) (s : CodeUnits) :
    (all s).answer d scope = (Selector.read s.toText).map (matching d scope) := by
  cases scope with
  | none => rw [show matching d none = d.select from rfl, answer, Option.elim_none, Document.queryAll]
  | some e => rw [show matching d (some e) = e.select from rfl, answer, Option.elim_some, Element.queryAll]

theorem answer_first (d : Document) (scope : Option Element) (s : CodeUnits) :
    (first s).answer d scope = (Selector.read s.toText).map fun selector => (matching d scope selector).head?.toList := by
  cases scope <;> simp only [answer, Option.elim_none, Option.elim_some, Document.query, Document.queryAll, Element.query,
    Element.queryAll] <;> cases Selector.read s.toText <;> rfl

theorem answer_tagged (d : Document) (scope : Option Element) (s : CodeUnits) :
    (tagged s).answer d scope = .ok (scope.elim (d.withTag s.toText) (·.withTag s.toText)) := rfl

/-- Where nothing was taken out of the tree, a query of the document meets elements of the document alone. -/
theorem staysIn_of_detached_eq_nil (h : d.detached = []) (q : Question) : q.StaysIn d := by
  have own (s : Selector) : ∀ e ∈ d.select s, e ∈ d.elements := by
    intro e he
    have made := (List.mergeSort_perm _ _).mem_iff.mp (List.mem_filter.mp he).1
    rw [Document.detachedTrails, h, List.zipIdx_nil, List.flatMap_nil, List.filterMap_nil, List.filter_nil,
      List.append_nil] at made
    exact made
  intro es answered
  cases q with
  | all s =>
    rw [answer_all] at answered
    obtain ⟨selector, -, rfl⟩ := Except.map_eq_ok answered
    exact own selector
  | first s =>
    rw [answer_first] at answered
    obtain ⟨selector, -, rfl⟩ := Except.map_eq_ok answered
    exact fun e he => own selector e (List.mem_of_mem_head? (Option.mem_toList.mp he))
  | tagged s =>
    rw [answer_tagged, Option.elim_none] at answered
    cases answered
    exact fun e he => (List.mem_filter.mp he).1

/-- An answer about an element lists elements below it. -/
theorem answer_sublist {e : Element} {q : Question} {es : List Element} (h : q.answer d (some e) = .ok es) :
    es.Sublist e.descendants := by
  cases q with
  | all s =>
    rw [answer_all] at h
    obtain ⟨selector, -, rfl⟩ := Except.map_eq_ok h
    exact List.filter_sublist
  | first s =>
    rw [answer_first] at h
    obtain ⟨selector, -, rfl⟩ := Except.map_eq_ok h
    have first : (matching d (some e) selector).head?.toList.Sublist (matching d (some e) selector) := by
      cases matching d (some e) selector with
      | nil => exact .slnil
      | cons f fs => exact List.singleton_sublist.mpr List.mem_cons_self
    exact first.trans List.filter_sublist
  | tagged s =>
    rw [answer_tagged] at h
    cases h
    exact List.filter_sublist

/-- The elements of an answer are elements of the document, each once. -/
theorem answer_spec {x : Float} {scope : Option Element} (m : Means d x scope) {q : Question}
    (home : scope = none → q.StaysIn d) {es : List Element} (h : q.answer d scope = .ok es) :
    (∀ e ∈ es, e ∈ d.elements) ∧ es.Nodup := by
  cases m with
  | document =>
    refine ⟨home rfl es h, ?_⟩
    cases q with
    | all s =>
      have inside := home rfl es h
      rw [answer_all] at h
      obtain ⟨selector, -, rfl⟩ := Except.map_eq_ok h
      exact Document.nodup_select inside
    | first s =>
      rw [answer_first] at h
      obtain ⟨selector, -, rfl⟩ := Except.map_eq_ok h
      cases (matching d none selector).head? with
      | none => exact List.nodup_nil
      | some e => exact List.nodup_singleton e
    | tagged s =>
      rw [answer_tagged, Option.elim_none] at h
      cases h
      exact d.nodup_elements.filter _
  | @element i e _ he =>
    have part := answer_sublist h
    exact ⟨fun f hf => Document.descendants_subset (NumberedDocument.mem_of_element he) (part.subset hf),
      e.nodup_descendants.sublist part⟩

/-- There is no answer only where the selector cannot be read. -/
theorem error_of_answer {scope : Option Element} {q : Question} {e : Error} (h : q.answer d scope = .error e) :
    Selector.read q.text = .error e := by
  cases q with
  | all s => exact Except.map_eq_error (answer_all d scope s ▸ h)
  | first s => exact Except.map_eq_error (answer_first d scope s ▸ h)
  | tagged s => nomatch (answer_tagged d scope s).symm.trans h

end Question

/-- A text that is no selector is told from one that ends the reading. -/
theorem Selector.error_of_read {s : String} {e : Error} (h : Selector.read s = .error e) :
    e = .panic ∨ ∃ cause, e = .invalidSelector s cause := by
  unfold Selector.read at h
  split at h
  · cases h
  · split at h
    · cases h
      exact .inr ⟨_, rfl⟩
    · cases h
      exact .inl rfl

namespace Question

variable {x : Float} {scope : Option Element} {q : Question}

/-- Where the program gets elements, the script gets an array of their numbers. -/
theorem put_of_ok (page : c.page = d.numbered) (m : Means d x scope) (home : scope = none → q.StaysIn d)
    {es : List Element} (h : q.answer d scope = .ok es) :
    ∃ is, d.numbered.Tells is es ∧ q.put k x c w = makeArray (is.map .nat) c w := by
  obtain ⟨inside, once⟩ := answer_spec m home h
  refine ⟨_, NumberedDocument.tells_positionsOf inside once, ?_⟩
  rw [put_eq, page, read_eq m, h]
  rfl

/-- The script meets a syntax error exactly where the program hears that the selector is none. -/
theorem throws_put_iff (page : c.page = d.numbered) (m : Means d x scope) :
    Throws .malformed (q.put k x) c w ↔ ∃ e, q.answer d scope = .error e ∧ e.code = "dom.invalid_selector" := by
  have asked := q.put_eq k x c w
  rw [page, q.read_eq m] at asked
  cases h : q.answer d scope with
  | ok es =>
    rw [h] at asked
    refine iff_of_false (not_throws_of_ok (asked.trans rfl)) ?_
    rintro ⟨e, no, -⟩
    cases no
  | error e =>
    rw [h] at asked
    rcases Selector.error_of_read (error_of_answer h) with rfl | ⟨cause, rfl⟩
    · refine iff_of_false ?_ ?_
      · rintro ⟨r, w', o, thrown, -⟩
        cases (asked.trans rfl).symm.trans thrown
      · rintro ⟨e, same, code⟩
        cases same
        exact absurd code (by decide)
    · refine iff_of_true ?_ ⟨_, rfl, rfl⟩
      have thrown := (throws_badSelector q.text q.text cause c w).bind fun is : List Nat => makeArray (is.map .nat)
      unfold Throws at thrown ⊢
      rw [asked]
      exact thrown

end Question

theorem NodeTable.positionsOf_toList (t : NodeTable) (e : Option Element) :
    t.positionsOf e.toList = (e.bind t.position?).toList := by
  cases e with
  | none => rfl
  | some e =>
    rw [Option.toList_some, NodeTable.positionsOf, Option.bind_some, List.filterMap_cons]
    cases t.position? e <;> rfl

/-- The number that is given for an `id` is that of the element. -/
theorem tells_byId (d : Document) (id : String) : d.numbered.Tells (d.numbered.byId id).toList (d.withId? id).toList := by
  have inside : ∀ e ∈ (d.withId? id).toList, e ∈ d.elements :=
    fun e he => List.mem_of_find?_eq_some (Option.mem_toList.mp he)
  have once : (d.withId? id).toList.Nodup := by
    cases d.withId? id with
    | none => exact List.nodup_nil
    | some e => exact List.nodup_singleton e
  have tells := NumberedDocument.tells_positionsOf inside once
  rwa [NodeTable.positionsOf_toList] at tells

/-- A script and a program are answered alike: the numbers that the script is given tell the elements that the
program gets, and the script meets a syntax error exactly if the program hears that the selector is none. -/
theorem queries_agree (k : Kernel) (d : Document) (c : Context) (w : World) (page : c.page = d.numbered) :
    (∀ (x : Float) (scope : Option Element) (q : Question), Means d x scope → (scope = none → q.StaysIn d) →
      (∀ es, q.answer d scope = .ok es →
        ∃ is, d.numbered.Tells is es ∧ q.put k x c w = makeArray (is.map .nat) c w) ∧
      (Throws .malformed (q.put k x) c w ↔ ∃ e, q.answer d scope = .error e ∧ e.code = "dom.invalid_selector")) ∧
    ∀ id : CodeUnits, ∃ i, d.numbered.Tells i.toList (d.withId? id.toText).toList ∧
      Bridge.run k .byId [.text id] c w = .ok (numberValue i) w := by
  refine ⟨fun x scope q m home => ⟨fun es h => q.put_of_ok page m home h, q.throws_put_iff page m⟩, fun id => ?_⟩
  exact ⟨d.numbered.byId id.toText, tells_byId d id.toText, by rw [← page]; rfl⟩

/-- A page with a paragraph in a template and one beside it. -/
def twoParagraphs : Document := .located "<div><template><p></p></template><p></p></div>"

/-- A script that has not begun, in a window with a page. -/
def Context.opening (d : Document) : Context := ⟨d.numbered, {}, 0, 0, [], Observer.quiet⟩

theorem queries_agree_twoParagraphs :
    let d := twoParagraphs
    let c := Context.opening d
    let w : World := ⟨default, {}⟩
    let k := kernel 1
    c.page = d.numbered ∧ (Question.all "p").StaysIn d ∧ Means d (-1.0) none ∧
      (∃ es is, (Question.all "p").answer d none = .ok es ∧ d.numbered.Tells is es ∧
        (Question.all "p").put k (-1.0) c w = makeArray (is.map .nat) c w) ∧
      ∃ e : Element, e.localName = "div" ∧ Means d 3.0 (some e) ∧
        Throws .malformed ((Question.first "p,").put k 3.0) c w := by
  intro d c w k
  have home : (Question.all "p").StaysIn d :=
    Question.staysIn_of_detached_eq_nil (List.isEmpty_iff.mp (by decide +kernel)) _
  have whole : Means d (-1.0) none := .document (by decide +kernel)
  have agree := queries_agree k d c w rfl
  refine ⟨rfl, home, whole, ?_, ?_⟩
  · have readable : (Selector.read ("p" : CodeUnits).toText).toOption.isSome := by decide +kernel
    cases answered : (Question.all "p").answer d none with
    | error e =>
      have unread : Selector.read ("p" : CodeUnits).toText = .error e := Question.error_of_answer (q := .all "p") answered
      rw [unread] at readable
      cases readable
    | ok es =>
      obtain ⟨is, tells, put⟩ := (agree.1 (-1.0) none (.all "p") whole fun _ => home).1 es answered
      exact ⟨es, is, rfl, tells, put⟩
  · have third : (d.numbered.element 3).toOption.map (·.localName) = some "div" := by decide +kernel
    cases he : d.numbered.element 3 with
    | error f =>
      rw [he] at third
      cases third
    | ok e =>
      rw [he] at third
      have scope : Means d 3.0 (some e) := .element (i := 3) (by decide +kernel) he
      refine ⟨e, Option.some.inj third, scope, ?_⟩
      refine (agree.1 3.0 (some e) (.first "p,") scope fun no => nomatch no).2.mpr ?_
      have unread : (match Selector.read ("p," : CodeUnits).toText with
        | .error f => f.code
        | .ok _ => "") = "dom.invalid_selector" := by decide +kernel
      rw [Question.answer_first]
      cases hr : Selector.read ("p," : CodeUnits).toText with
      | error f =>
        rw [hr] at unread
        exact ⟨f, rfl, unread⟩
      | ok selector =>
        rw [hr] at unread
        change "" = _ at unread
        exact absurd unread (by decide)

end Script

end Pagewalk
