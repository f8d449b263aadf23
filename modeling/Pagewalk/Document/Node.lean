import Pagewalk.Markup.Name

/-!
# Nodes of a page

A page below its root is a tree of elements, texts and comments; what a template holds stands under a fragment,
which is no element. A node is found by its trail: the node itself, then the nodes above it, each with its place
among its siblings. The places alone are the key of the node, and in one tree no two nodes have the same key.
-/

namespace Pagewalk

/-- What an element is, its children apart: when it was made, its name and its attributes in source order. -/
structure ElementData where
  born : Nat
  name : Markup.ElementName
  attributes : List Markup.Attribute
  deriving DecidableEq, Repr, Inhabited

/-- A node of a page below its root. -/
inductive Node where
  | element (data : ElementData) (kids : List Node)
  | fragment (kids : List Node)
  | text (s : String)
  | comment (s : String)
  deriving Repr, Inhabited

/-- The children of a node. -/
def Node.kids : Node → List Node
  | element _ kids => kids
  | fragment kids => kids
  | text _ => []
  | comment _ => []

/-- A node with its place among its siblings. -/
structure Step where
  place : Nat
  node : Node
  deriving Repr, Inhabited

/-- A node and the nodes above it, innermost first. -/
abbrev Trail := List Step

/-- The places that lead to a node, innermost first. -/
abbrev Key := List Nat

/-- The key of a node. -/
def Trail.key (t : Trail) : Key := t.map (·.place)

mutual

/-- The trails of a node and of all nodes below it, in document order. -/
def Node.trails (above : Trail) (place : Nat) : Node → List Trail
  | .element data kids =>
    let here := ⟨place, .element data kids⟩ :: above
    here :: Node.trailsOfAll here 0 kids
  | .fragment kids =>
    let here := ⟨place, .fragment kids⟩ :: above
    here :: Node.trailsOfAll here 0 kids
  | .text s => [⟨place, .text s⟩ :: above]
  | .comment s => [⟨place, .comment s⟩ :: above]

/-- The trails of siblings, the first of which has the given place, and of all nodes below them. -/
def Node.trailsOfAll (above : Trail) (place : Nat) : List Node → List Trail
  | [] => []
  | n :: ns => Node.trails above place n ++ Node.trailsOfAll above (place + 1) ns

end

/-- The trail of the node to which the places lead from a node, outermost place first. -/
def Node.descend (here : Trail) : List Nat → Node → Option Trail
  | [], _ => some here
  | i :: is, n =>
    match n.kids[i]? with
    | none => none
    | some kid => Node.descend (⟨i, kid⟩ :: here) is kid

mutual

/-- The texts in a node, put together. -/
def Node.words (acc : String) : Node → String
  | .element _ kids => Node.wordsOfAll acc kids
  | .fragment kids => Node.wordsOfAll acc kids
  | .text s => acc ++ s
  | .comment _ => acc

/-- The texts in siblings, put together. -/
def Node.wordsOfAll (acc : String) : List Node → String
  | [] => acc
  | n :: ns => Node.wordsOfAll (Node.words acc n) ns

end

end Pagewalk
