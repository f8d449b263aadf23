import Pagewalk.Proofs.Script.Selections

/-!
# Ways to nodes

A script comes to a node by an expression that goes from the document over queries and from node to node. A program goes
the same way by numbers, and the value of the expression is the wrapper of the node to which it comes.
-/

namespace Pagewalk.Script

open Text

/-! ### Ways -/

/-- What a script reads of a node to come to one near it. -/
inductive Neighbour where
  | ownerDocument
  | parentNode
  | parentElement
  | child (last elementsOnly : Bool)
  | sibling (forward elementsOnly : Bool)

namespace Neighbour

def name : Neighbour → String
  | ownerDocument => "ownerDocument"
  | parentNode => "parentNode"
  | parentElement => "parentElement"
  | child false false => "firstChild"
  | child false true => "firstElementChild"
  | child true false => "lastChild"
  | child true true => "lastElementChild"
  | sibling true false => "nextSibling"
  | sibling true true => "nextElementSibling"
  | sibling false false => "previousSibling"
  | sibling false true => "previousElementSibling"

/-- The first or the last of some numbers. The last one of a list is read by its index, and an index is below 2 ^ 32 - 1. -/
def endOf (last : Bool) (is : List Nat) : Option Nat :=
  if last then (if is.length ≤ 4294967295 then is.getLast? else none) else is.head?

/-- Where one comes from the document or from a node: to the document, to a node, or to neither. -/
def place? (d : Document) (scope : Option Nat) : Neighbour → Option (Option Nat)
  | ownerDocument => scope.map fun _ => none
  | parentNode => scope.bind fun i => (d.numbered.parent (some i)).toOption
  | parentElement => scope.bind fun i => (d.numbered.parent (some i)).toOption.bind (·.map some)
  | child last elementsOnly => (d.numbered.children scope elementsOnly).toOption.bind fun is => (endOf last is).map some
  | sibling forward elementsOnly => (d.numbered.sibling scope forward elementsOnly).toOption.bind (·.map some)

end Neighbour

def DocumentPart.name : DocumentPart → String
  | root => "documentElement"
  | head => "head"
  | body => "body"
  | title => "title"

/-- A way from the document to the document or to a node. -/
inductive Way where
  | document
  | part (q : DocumentPart)
  | identified (id : CodeUnits)
  | first (p : Way) (selector : CodeUnits)
  | closest (p : Way) (selector : CodeUnits)
  | item (p : Way) (l : Selection) (n : Fin 4294967295)
  | beside (p : Way) (q : Neighbour)

/-- A script has the value of a selection. -/
def Selection.expr (e : Expr) : Selection → Expr
  | matching s => .call (.member e "querySelectorAll") [.text s]
  | tagged s => .call (.member e "getElementsByTagName") [.text s]
  | classed s => .call (.member e "getElementsByClassName") [.text s]
  | kids elementsOnly => .member e (CodeUnits.ofString (cond elementsOnly "children" "childNodes"))

namespace Way

/-- The way as a script writes it. -/
def expr : Way → Expr
  | document => .name "document"
  | part q => .member (.name "document") (CodeUnits.ofString q.name)
  | identified id => .call (.member (.name "document") "getElementById") [.text id]
  | first p s => .call (.member p.expr "querySelector") [.text s]
  | closest p s => .call (.member p.expr "closest") [.text s]
  | item p l n => .index (l.expr p.expr) (.number n.val.toFloat)
  | beside p q => .member p.expr (CodeUnits.ofString q.name)

/-- Where a program comes on the same way: to the document, to a node, or to neither. In search of the closest element
that matches a selector a loop goes upwards, at most as often as loops may be run. -/
def place? (d : Document) (limit : Nat) : Way → Option (Option Nat)
  | document => some none
  | part .root => some (some 0)
  | part .head => (d.head?.bind d.numbered.table.position?).map some
  | part .body => (d.body?.bind d.numbered.table.position?).map some
  | part .title => none
  | identified id => ((d.withId? id.toText).bind d.numbered.table.position?).map some
  | first p s => do
    let among ← d.scope? (← p.place? d limit)
    let es ← ((Question.first s).answer d among).toOption
    (d.numbered.table.positionsOf es).head?.map some
  | closest p s => do
    let i ← (← p.place? d limit)
    (← (d.numbered.firstMatch s.toText ((d.numbered.line i).take (limit + 2))).toOption).map some
  | item p l n => do
    let is ← l.members d (← p.place? d limit)
    is[n.val]?.map some
  | beside p q => do q.place? d (← p.place? d limit)

end Way

/-! ### Where ways lead -/

section Places

variable {d : Document} {limit : Nat} {scope place : Option Nat} {i : Nat}

theorem Neighbour.endOf_eq_some_iff {last : Bool} {is : List Nat} : endOf last is = some i ↔
    (if last then is.getLast? else is.head?) = some i ∧ (last = true → is.length ≤ 4294967295) := by
  cases last <;> simp [endOf, and_comm]

theorem Neighbour.endOf_mem {last : Bool} {is : List Nat} (h : endOf last is = some i) : i ∈ is := by
  rw [endOf] at h
  split_ifs at h
  · exact List.mem_of_getLast? h
  · exact List.mem_of_head? h

theorem Neighbour.lt_of_place {q : Neighbour} (h : q.place? d scope = some (some i)) : i < d.nodes.length := by
  cases q with
  | ownerDocument =>
    obtain ⟨_, _, none⟩ := Option.map_eq_some_iff.mp h
    cases none
  | parentNode =>
    obtain ⟨j, -, parent⟩ := Option.bind_eq_some_iff.mp h
    exact NumberedDocument.lt_of_parent (eq_ok_of_toOption parent)
  | parentElement =>
    obtain ⟨j, -, h⟩ := Option.bind_eq_some_iff.mp h
    obtain ⟨up, parent, h⟩ := Option.bind_eq_some_iff.mp h
    obtain ⟨_, rfl, same⟩ := Option.map_eq_some_iff.mp h
    cases same
    exact NumberedDocument.lt_of_parent (eq_ok_of_toOption parent)
  | child last elementsOnly =>
    obtain ⟨is, children, h⟩ := Option.bind_eq_some_iff.mp h
    obtain ⟨_, one, same⟩ := Option.map_eq_some_iff.mp h
    cases same
    exact NumberedDocument.lt_of_children (eq_ok_of_toOption children) i (endOf_mem one)
  | sibling forward elementsOnly =>
    obtain ⟨found, sibling, h⟩ := Option.bind_eq_some_iff.mp h
    obtain ⟨_, rfl, same⟩ := Option.map_eq_some_iff.mp h
    cases same
    exact NumberedDocument.lt_of_sibling (eq_ok_of_toOption sibling)

/-- What is asked whether it matches a selector, and has an answer, is an element. -/
theorem exists_element_of_isMatch {s : String} {b : Bool} (h : d.numbered.isMatch (some i) s = .ok b) :
    ∃ e, d.numbered.element i = .ok e := by
  rw [NumberedDocument.isMatch] at h
  split at h
  next => cases h
  next e he => exact ⟨e, he⟩

theorem exists_isMatch_of_firstMatch {s : String} {is : List Nat} {j : Nat}
    (h : d.numbered.firstMatch s (i :: is) = .ok (some j)) : ∃ b, d.numbered.isMatch (some i) s = .ok b := by
  rw [NumberedDocument.firstMatch] at h
  split at h
  next => cases h
  next hit => exact ⟨true, hit⟩
  next miss => exact ⟨false, miss⟩

theorem exists_element_of_firstMatch {s : String} {is : List Nat} (h : d.numbered.firstMatch s is = .ok (some i)) :
    ∃ e, d.numbered.element i = .ok e := by
  induction is with
  | nil => cases h
  | cons j is ih =>
    rw [NumberedDocument.firstMatch] at h
    split at h
    next => cases h
    next hit =>
      cases h
      exact exists_element_of_isMatch hit
    next => exact ih h

/-- Ways lead to nodes of the document. -/
theorem Way.lt_of_place {p : Way} (h : p.place? d limit = some (some i)) : i < d.nodes.length := by
  have position {e : Option Element} (h : (e.bind d.numbered.table.position?).map some = some (some i)) :
      i < d.nodes.length := by
    obtain ⟨_, found, same⟩ := Option.map_eq_some_iff.mp h
    cases same
    obtain ⟨e, -, position⟩ := Option.bind_eq_some_iff.mp found
    exact d.numbers.lt_of_position position
  cases p with
  | document => cases h
  | part q =>
    cases q with
    | root =>
      cases h
      exact Nat.zero_lt_succ _
    | head => exact position h
    | body => exact position h
    | title => cases h
  | identified id => exact position h
  | first p s =>
    obtain ⟨scope, -, h⟩ := Option.bind_eq_some_iff.mp h
    obtain ⟨among, -, h⟩ := Option.bind_eq_some_iff.mp h
    obtain ⟨es, -, h⟩ := Option.bind_eq_some_iff.mp h
    obtain ⟨_, first, same⟩ := Option.map_eq_some_iff.mp h
    cases same
    exact lt_of_positionsOf i (List.mem_of_head? first)
  | closest p s =>
    obtain ⟨scope, -, h⟩ := Option.bind_eq_some_iff.mp h
    obtain ⟨j, -, h⟩ := Option.bind_eq_some_iff.mp h
    obtain ⟨found, answer, h⟩ := Option.bind_eq_some_iff.mp h
    obtain ⟨_, rfl, same⟩ := Option.map_eq_some_iff.mp h
    cases same
    obtain ⟨e, he⟩ := exists_element_of_firstMatch (eq_ok_of_toOption answer)
    exact lt_of_element he
  | item p l n =>
    obtain ⟨scope, -, h⟩ := Option.bind_eq_some_iff.mp h
    obtain ⟨is, members, h⟩ := Option.bind_eq_some_iff.mp h
    obtain ⟨_, there, same⟩ := Option.map_eq_some_iff.mp h
    cases same
    exact Selection.lt_of_members members i (List.mem_of_getElem? there)
  | beside p q =>
    obtain ⟨scope, -, h⟩ := Option.bind_eq_some_iff.mp h
    exact Neighbour.lt_of_place h

/-- Where a query leads is one of the elements that answer it. -/
theorem Way.element_of_first {p : Way} {s : CodeUnits} (h : (Way.first p s).place? d limit = some place) :
    ∃ scope among es i e, p.place? d limit = some scope ∧ d.scope? scope = some among ∧
      (Question.first s).answer d among = .ok es ∧ e ∈ es ∧ place = some i ∧ d.numbered.element i = .ok e := by
  obtain ⟨scope, hp, h⟩ := Option.bind_eq_some_iff.mp h
  obtain ⟨among, hs, h⟩ := Option.bind_eq_some_iff.mp h
  obtain ⟨es, answer, h⟩ := Option.bind_eq_some_iff.mp h
  obtain ⟨i, first, rfl⟩ := Option.map_eq_some_iff.mp h
  obtain ⟨e, he, position⟩ := List.mem_filterMap.mp (List.mem_of_head? first)
  have answered := eq_ok_of_toOption answer
  exact ⟨scope, among, es, i, e, hp, hs, answered, he, rfl,
    Document.element_of_position (Question.mem_of_answer hs answered e he) position⟩

end Places

end Pagewalk.Script
