import Pagewalk.Document.Location
import Pagewalk.Document.Printer
import Pagewalk.Markup.Fault
import Std.Data.HashMap

/-!
# Documents

A document has one root element, and document types and comments before and after it. Nodes that were taken out
of the tree while it was built are kept apart: their elements are in no listing, but a query of the whole document
that goes by the order of creation still meets what is below them.
-/

namespace Pagewalk

open Markup

/-- A node beside the root. -/
inductive Outer where
  | doctype (name : String)
  | comment (s : String)
  deriving Repr, Inhabited

/-- A document. -/
structure Document where
  before : List Outer
  rootData : ElementData
  rootKids : List Node
  after : List Outer
  /-- The trees that were taken out. -/
  detached : List Node
  /-- The faults that were met while the markup was read, in order. -/
  faults : List Fault
  /-- Where the tags of elements stand in the source. -/
  locations : Std.HashMap Key Location
  /-- Which document it is; whoever holds several gives each a number of its own. -/
  number : Nat
  deriving Inhabited

/-- A node with its key and the key of the node above it. -/
structure Listed where
  key : Key
  /-- Only the root has none. -/
  parent : Option Key
  view : NodeView
  deriving Inhabited

/-- The listed node at the inner end of a trail. -/
def Listed.ofTrail? (t : Trail) : Option Listed :=
  (NodeView.ofTrail? t).map fun view =>
    let key := Trail.key t
    ⟨key, match key with
      | _ :: above@(_ :: _) => some above
      | _ => none, view⟩

namespace Document

/-- The root element. -/
def root (d : Document) : Element := ⟨d.rootData, d.rootKids, 0, []⟩

/-- The trails of the root and of all nodes below it. -/
def trails (d : Document) : List Trail := d.root.node.trails [] 0

/-- All elements, in document order. -/
def elements (d : Document) : List Element := d.trails.filterMap Element.ofTrail?

/-- The number of elements. -/
def elementCount (d : Document) : Nat := d.elements.length

/-- The elements, texts and comments from the root down, in document order. -/
def nodes (d : Document) : List Listed := d.trails.filterMap Listed.ofTrail?

/-- The element, text or comment with a key. -/
def node? (d : Document) (key : Key) : Option NodeView :=
  match key.reverse with
  | 0 :: places => (Node.descend [⟨0, d.root.node⟩] places d.root.node).bind NodeView.ofTrail?
  | _ => none

/-- The first child of the root named `head`. -/
def head? (d : Document) : Option Element := d.root.children.find? fun e => e.localName == "head"

/-- The first child of the root named `body` or `frameset`. -/
def body? (d : Document) : Option Element :=
  d.root.children.find? fun e => e.localName == "body" || e.localName == "frameset"

/-- All elements with this tag name, in document order. -/
def withTag (d : Document) (wanted : String) : List Element := d.elements.filter (·.hasTag wanted)

/-- The first element with this `id`. -/
def withId? (d : Document) (id : String) : Option Element :=
  d.elements.find? fun e => e.attribute? "id" == some id

/-- The text of the first title, its words parted by one space. -/
def title (d : Document) : String :=
  match d.withTag "title" with
  | [] => ""
  | e :: _ => " ".intercalate (Text.words e.text)

/-- The name of the document type. -/
def doctype? (d : Document) : Option String :=
  (d.before ++ d.after).findSome? fun
    | .doctype name => some name
    | .comment _ => none

/-- A document without a document type `html` is laid out leniently. -/
def isLenient (d : Document) : Bool :=
  match d.doctype? with
  | none => true
  | some name => !Text.sameLetters name "html"

/-- The root as markup. -/
def pageMarkup (d : Document) : String := d.root.outerMarkup

/-- Where the tag of an element stands. -/
def location? (d : Document) (e : Element) : Option Location := d.locations[e.key]?

/-- Adds locations; of two for one element the later counts. -/
def withLocations (d : Document) (rows : List (Key × Location)) : Document :=
  { d with locations := rows.foldl (fun m (k, l) => m.insert k l) d.locations }

/-- An element of one document is the same as an element of another. -/
def isSame (d : Document) (e : Element) (other : Document) (f : Element) : Bool :=
  d.number == other.number && e.key == f.key

/-- The trails of the nodes below those that were taken out. -/
def detachedTrails (d : Document) : List Trail :=
  (d.detached.zipIdx 1).flatMap fun (n, i) => n.trails [] i

/-- The elements that have a node above them, in the order in which they were made; the root, which stands under
the document, is one of them. -/
def inCreationOrder (d : Document) : List Element :=
  let under := d.detachedTrails.filterMap Element.ofTrail?
  (d.elements ++ under.filter fun e => !e.above.isEmpty).mergeSort fun a b => decide (a.data.born ≤ b.data.born)

/-- A short description of an element with its location. -/
def described (d : Document) (e : Element) : String :=
  let location := match d.location? e with
    | none => "None"
    | some l => "Some(" ++ l.described ++ ")"
  "Element \x7b name: \"" ++ e.localName ++ "\", location: " ++ location ++ " \x7d"

end Document

end Pagewalk
