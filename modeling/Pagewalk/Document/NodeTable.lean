import Pagewalk.Document.Basic

/-!
# Numbered nodes

The listed nodes of a document are numbered in document order, the root being 0. A table keeps for each number the
key of the node, what kind it is, the number of its parent and the numbers of its children. A node whose parent is
not listed, as what stands directly in a template, has no parent in the table; `none` where a number could stand
means the document itself, whose one child is the root.
-/

namespace Pagewalk

/-- What a listed node is. -/
inductive NodeKind where
  | element
  | text
  | comment
  deriving DecidableEq, Repr, Inhabited

/-- The number by which scripts know a kind. -/
def NodeKind.code : NodeKind → Nat
  | element => 1
  | text => 3
  | comment => 8

/-- The kind of a node. -/
def NodeView.nodeKind : NodeView → NodeKind
  | element _ => .element
  | text _ => .text
  | comment _ => .comment

/-- The numbered nodes of a document. -/
structure NodeTable where
  keys : Array Key
  kinds : Array NodeKind
  parents : Array (Option Nat)
  children : Array (Array Nat)
  /-- The number of each key. -/
  positions : Std.HashMap Key Nat
  deriving Inhabited

namespace NodeTable

/-- The table of no nodes. -/
def empty : NodeTable := ⟨#[], #[], #[], #[], ∅⟩

/-- The table with one node more. -/
def push (t : NodeTable) (n : Listed) : NodeTable :=
  let i := t.keys.size
  let parent := n.parent.bind fun k => t.positions[k]?
  { keys := t.keys.push n.key
    kinds := t.kinds.push n.view.nodeKind
    parents := t.parents.push parent
    children := (match parent with
      | none => t.children
      | some p => t.children.modify p (·.push i)).push #[]
    positions := t.positions.insert n.key i }

/-- The table of a document. -/
def ofDocument (d : Document) : NodeTable := d.nodes.foldl push empty

/-- The number of nodes. -/
def size (t : NodeTable) : Nat := t.keys.size

/-- The number of an element. -/
def position? (t : NodeTable) (e : Element) : Option Nat := t.positions[e.key]?

/-- The numbers of some elements. -/
def positionsOf (t : NodeTable) (es : List Element) : List Nat := es.filterMap t.position?

/-- The node of this number is an element. -/
def isElement (t : NodeTable) (i : Nat) : Bool := t.kinds[i]? == some .element

/-- The numbers of the children of a node; `none` if there is no such node. -/
def childrenOf? (t : NodeTable) (scope : Option Nat) : Option (List Nat) :=
  match scope with
  | none => some (if t.keys.isEmpty then [] else [0])
  | some i => t.children[i]?.map (·.toList)

/-- The numbers of the children that are wanted: all, or elements alone. -/
def chosen (t : NodeTable) (elementsOnly : Bool) (is : List Nat) : List Nat :=
  is.filter fun i => !elementsOnly || t.isElement i

/-- The nearest wanted sibling of a node, after it or before it. The outer `none` says that there is no such node. -/
def sibling? (t : NodeTable) (i : Nat) (forward elementsOnly : Bool) : Option (Option Nat) :=
  match t.parents[i]? with
  | none => none
  | some parent =>
    match t.childrenOf? parent with
    | none => none
    | some siblings =>
      some <|
        if !siblings.contains i then none
        else if forward then (t.chosen elementsOnly ((siblings.dropWhile (· != i)).drop 1)).head?
        else (t.chosen elementsOnly (siblings.takeWhile (· != i))).getLast?

end NodeTable

end Pagewalk
