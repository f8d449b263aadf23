import Pagewalk.Document.NodeTable
import Pagewalk.Document.Query

/-!
# Reading a document by numbers

What scripts read of a document they read by the numbers of its nodes; where no number is given, `none` stands for
the document itself. A number that no node has, a node that is no element where one is due, and a selector that
cannot be read are the faults.
-/

namespace Pagewalk

/-- What can be wrong with a reading by number. -/
inductive NodeFault where
  | noNode (i : Nat)
  | noElement (i : Nat)
  | badSelector (selector : String) (cause : Error)
  deriving DecidableEq, Repr

/-- A document with its numbered nodes. -/
structure NumberedDocument where
  document : Document
  table : NodeTable
  deriving Inhabited

/-- A document with its nodes numbered. -/
def Document.numbered (d : Document) : NumberedDocument := ⟨d, .ofDocument d⟩

namespace NumberedDocument

variable (p : NumberedDocument)

/-- The node of a number. -/
def node (i : Nat) : Except NodeFault NodeView :=
  match p.table.keys[i]?.bind p.document.node? with
  | some v => .ok v
  | none => .error (.noNode i)

/-- The element of a number. -/
def element (i : Nat) : Except NodeFault Element :=
  match p.node i with
  | .ok (.element e) => .ok e
  | .ok _ => .error (.noElement i)
  | .error f => .error f

/-! ### Single nodes -/

/-- The code of the kind of a node; nine for the document. -/
def nodeType : Option Nat → Except NodeFault Nat
  | none => .ok 9
  | some i =>
    match p.table.kinds[i]? with
    | some k => .ok k.code
    | none => .error (.noNode i)

/-- The local name of an element; texts, comments and the document have none. -/
def localName? : Option Nat → Except NodeFault (Option String)
  | none => .ok none
  | some i => (p.node i).map fun
    | .element e => some e.localName
    | _ => none

/-- The name of a node. -/
def nodeName : Option Nat → Except NodeFault String
  | none => .ok "#document"
  | some i => (p.node i).map fun
    | .element e => e.nodeName
    | .text _ => "#text"
    | .comment _ => "#comment"

/-- What a text or a comment says. -/
def data? : Option Nat → Except NodeFault (Option String)
  | none => .ok none
  | some i => (p.node i).map fun
    | .element _ => none
    | .text s => some s
    | .comment s => some s

/-- The text of a node; the document has none. -/
def text? : Option Nat → Except NodeFault (Option String)
  | none => .ok none
  | some i => (p.node i).map fun
    | .element e => some e.text
    | .text s => some s
    | .comment s => some s

/-- The value of an attribute, by its name or by its name in small letters. -/
def attribute? (scope : Option Nat) (name : String) : Except NodeFault (Option String) :=
  match scope with
  | none => .ok none
  | some i => (p.element i).map fun e => (e.attribute? name).or (e.attribute? (Text.lower name))

/-- The names and values of all attributes. -/
def attributes : Option Nat → Except NodeFault (List (String × String))
  | none => .ok []
  | some i => (p.element i).map (·.attributes)

/-- An element as markup, with its tags or without; the document is the root with its tags. -/
def markup (scope : Option Nat) (withTags : Bool) : Except NodeFault String :=
  match scope with
  | none => .ok p.document.root.outerMarkup
  | some i => (p.element i).map fun e => if withTags then e.outerMarkup else e.innerMarkup

/-! ### Neighbours -/

/-- The number of the parent; `none` for the document, for its root and for what stands right in a template. -/
def parent : Option Nat → Except NodeFault (Option Nat)
  | none => .ok none
  | some i =>
    match p.table.parents[i]? with
    | some up => .ok up
    | none => .error (.noNode i)

/-- The numbers of the children, of all or of elements alone. -/
def children (scope : Option Nat) (elementsOnly : Bool) : Except NodeFault (List Nat) :=
  match p.table.childrenOf? scope with
  | some is => .ok (p.table.chosen elementsOnly is)
  | none => .error (.noNode (scope.getD 0))

/-- The number of the nearest wanted sibling. -/
def sibling (scope : Option Nat) (forward elementsOnly : Bool) : Except NodeFault (Option Nat) :=
  match scope with
  | none => .ok none
  | some i =>
    match p.table.sibling? i forward elementsOnly with
    | some found => .ok found
    | none => .error (.noNode i)

/-- The numbers of a node and of the nodes above it, at most so many. -/
def lineFrom : Nat → Nat → List Nat
  | 0, _ => []
  | n + 1, i =>
    i :: match p.table.parents[i]? with
      | some (some up) => lineFrom n up
      | _ => []

/-- The numbers of a node and of the nodes above it. Parents have smaller numbers, so none is left out. -/
def line (i : Nat) : List Nat := p.lineFrom (i + 1) i

/-- A node stands in another or is it; in the document everything stands. -/
def contains (scope : Option Nat) (i : Nat) : Bool :=
  match scope with
  | none => true
  | some j => (p.line i).contains j

/-! ### Queries -/

/-- The fault of a selector. -/
def queryFault {α : Type} (selector : String) (r : Except Error α) : Except NodeFault α :=
  match r with
  | .ok a => .ok a
  | .error e => .error (.badSelector selector e)

/-- The numbers of the elements that match a selector, of all or of the first. -/
def query (scope : Option Nat) (selector : String) (firstOnly : Bool) : Except NodeFault (List Nat) :=
  match scope with
  | none =>
    if firstOnly then
      (queryFault selector (p.document.query selector)).map fun e => p.table.positionsOf e.toList
    else (queryFault selector (p.document.queryAll selector)).map p.table.positionsOf
  | some i =>
    match p.element i with
    | .error f => .error f
    | .ok e =>
      if firstOnly then (queryFault selector (e.query selector)).map fun e => p.table.positionsOf e.toList
      else (queryFault selector (e.queryAll selector)).map p.table.positionsOf

/-- An element matches a selector; the document matches none. -/
def isMatch (scope : Option Nat) (selector : String) : Except NodeFault Bool :=
  match scope with
  | none => .ok false
  | some i =>
    match p.element i with
    | .error f => .error f
    | .ok e => queryFault selector (e.matchesText selector)

/-- The first of some nodes that matches a selector. -/
def firstMatch (selector : String) : List Nat → Except NodeFault (Option Nat)
  | [] => .ok none
  | i :: is =>
    match p.isMatch (some i) selector with
    | .error f => .error f
    | .ok true => .ok (some i)
    | .ok false => firstMatch selector is

/-- The nearest element that matches a selector among an element and those above it. -/
def closest (i : Nat) (selector : String) : Except NodeFault (Option Nat) := p.firstMatch selector (p.line i)

/-- The number of the first element with this `id`. -/
def byId (id : String) : Option Nat := (p.document.withId? id).bind p.table.position?

/-- The numbers of the elements with this tag name. -/
def byTag (scope : Option Nat) (name : String) : Except NodeFault (List Nat) :=
  match scope with
  | none => .ok (p.table.positionsOf (p.document.withTag name))
  | some i => (p.element i).map fun e => p.table.positionsOf (e.withTag name)

/-- The numbers of the elements that have all of some classes; no classes are had by none. -/
def byClass (scope : Option Nat) (names : String) : Except NodeFault (List Nat) :=
  let wanted := Text.spaceWords names
  if wanted.isEmpty then .ok []
  else
    let among : Except NodeFault (List Element) := match scope with
      | none => .ok p.document.elements
      | some i => (p.element i).map (·.descendants)
    among.map fun es =>
      p.table.positionsOf (es.filter fun e => let classes := e.classes; wanted.all classes.contains)

end NumberedDocument

end Pagewalk
