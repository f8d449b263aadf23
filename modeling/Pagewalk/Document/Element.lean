import Pagewalk.Document.Node

/-!
# Elements

An element is held together with the nodes above it, so that its parent, its siblings and its children are found
from it. It is the same element as another of the same document when their keys are equal.
-/

namespace Pagewalk

open Markup

/-- An element with its place and the nodes above it, innermost first. -/
structure Element where
  data : ElementData
  kids : List Node
  place : Nat
  above : Trail
  deriving Repr, Inhabited

/-- A node as it is listed: an element, a text or a comment. -/
inductive NodeView where
  | element (e : Element)
  | text (s : String)
  | comment (s : String)
  deriving Repr, Inhabited

namespace Element

/-- The element at the inner end of a trail, if an element stands there. -/
def ofTrail? : Trail → Option Element
  | ⟨place, .element data kids⟩ :: above => some ⟨data, kids, place, above⟩
  | _ => none

/-- The element as a node. -/
def node (e : Element) : Node := .element e.data e.kids

/-- The trail of an element. -/
def trail (e : Element) : Trail := ⟨e.place, e.node⟩ :: e.above

/-- The key of an element. -/
def key (e : Element) : Key := e.trail.key

/-! ### Names -/

/-- The name as it is in the tree; foreign elements keep their capitals. -/
def localName (e : Element) : String := e.data.name.name

/-- The name in small letters. -/
def tagName (e : Element) : String := Text.lower e.localName

/-- The address of the namespace. -/
def namespaceUri (e : Element) : String := e.data.name.space.uri

/-- The name in capitals for an element of ordinary markup, and unchanged for any other. -/
def nodeName (e : Element) : String :=
  if e.data.name.space == .html then Text.upper e.localName else e.localName

/-- A tag name asks for an element when it is a star or its name up to the case of letters. -/
def hasTag (e : Element) (wanted : String) : Bool := wanted == "*" || Text.sameLetters e.localName wanted

/-! ### Attributes -/

/-- The value of the attribute of this name that is in no namespace. -/
def attribute? (e : Element) (name : String) : Option String :=
  (e.data.attributes.find? fun a => a.name == .plain name).map (·.value)

/-- There is an attribute of this name in no namespace. -/
def hasAttribute (e : Element) (name : String) : Bool := (e.attribute? name).isSome

/-- The local names and the values of all attributes, in source order. -/
def attributes (e : Element) : List (String × String) := e.data.attributes.map fun a => (a.name.name, a.value)

/-- Leaves out an item that is equal to the one before it. -/
def withoutRepeats : List String → List String
  | a :: b :: rest => if a == b then withoutRepeats (b :: rest) else a :: withoutRepeats (b :: rest)
  | rest => rest

/-- The classes in the order of their characters, each once. -/
def classes (e : Element) : List String :=
  match e.attribute? "class" with
  | none => []
  | some s => withoutRepeats ((Text.words s).mergeSort fun a b => decide (a ≤ b))

/-! ### Neighbours -/

/-- The element right above, if the node above is an element. -/
def parent? (e : Element) : Option Element := ofTrail? e.above

/-- The elements of some siblings, the first of which has the given place. -/
def ofKids (above : Trail) (place : Nat) (kids : List Node) : List Element :=
  (kids.zipIdx place).filterMap fun (n, i) => ofTrail? (⟨i, n⟩ :: above)

/-- The child elements in document order. -/
def children (e : Element) : List Element := ofKids e.trail 0 e.kids

/-- There is a child element. -/
def hasChildren (e : Element) : Bool := !e.children.isEmpty

/-- All elements below, in document order. -/
def descendants (e : Element) : List Element := (Node.trailsOfAll e.trail 0 e.kids).filterMap ofTrail?

/-- The nodes among which the element stands, itself included. -/
def siblings (e : Element) : List Node :=
  match e.above with
  | [] => [e.node]
  | s :: _ => s.node.kids

/-- The elements before this one among its siblings, nearest first. -/
def before (e : Element) : List Element :=
  if e.above.isEmpty then [] else (ofKids e.above 0 (e.siblings.take e.place)).reverse

/-- The elements after this one among its siblings, nearest first. -/
def after (e : Element) : List Element :=
  if e.above.isEmpty then [] else ofKids e.above (e.place + 1) (e.siblings.drop (e.place + 1))

/-! ### Text -/

/-- The texts below the element, put together. -/
def text (e : Element) : String := Node.wordsOfAll "" e.kids

/-- The elements below with this tag name. -/
def withTag (e : Element) (wanted : String) : List Element := e.descendants.filter (·.hasTag wanted)

end Element

namespace NodeView

/-- The view of the node at the inner end of a trail; fragments are not seen. -/
def ofTrail? : Trail → Option NodeView
  | [] => none
  | ⟨place, .element data kids⟩ :: above => some (element ⟨data, kids, place, above⟩)
  | ⟨_, .text s⟩ :: _ => some (text s)
  | ⟨_, .comment s⟩ :: _ => some (comment s)
  | ⟨_, .fragment _⟩ :: _ => none

/-- The name of the kind of a node. -/
def kind : NodeView → String
  | element _ => "element"
  | text _ => "text"
  | comment _ => "comment"

/-- The local name of an element, and what a text or a comment says. -/
def words : NodeView → String
  | element e => e.localName
  | text s => s
  | comment s => s

end NodeView

/-- The children that are elements, texts or comments, in document order. -/
def Element.childNodes (e : Element) : List NodeView :=
  e.kids.zipIdx.filterMap fun (n, i) => NodeView.ofTrail? (⟨i, n⟩ :: e.trail)

end Pagewalk
