import Pagewalk.Markup.Name

/-!
# A tree under construction

While markup is read, nodes are made, moved and taken out again. A draft keeps them in the order in which they
were made, each with its parent and its children; a node without a parent is either the document or detached.
Text is never put beside text: it is added to the text that stands there.
-/

namespace Pagewalk.Markup

/-- The content of a node. -/
inductive Content where
  | document
  | doctype (name : String)
  | element (name : ElementName) (attributes : List Attribute)
  | text (s : String)
  | comment (s : String)
  /-- What a template holds. -/
  | fragment
  deriving Repr, Inhabited

/-- The number of a node of a draft, in the order of creation. -/
abbrev NodeId := Nat

/-- A node of a draft. -/
structure DraftNode where
  content : Content
  parent : Option NodeId
  children : Array NodeId
  deriving Repr, Inhabited

/-- A tree under construction. The document is node 0. -/
structure Draft where
  nodes : Array DraftNode
  deriving Repr, Inhabited

namespace Draft

/-- The draft of an empty document. -/
def empty : Draft := ⟨#[⟨.document, none, #[]⟩]⟩

/-- The number of the document node. -/
def document : NodeId := 0

/-- The content of a node. -/
def content (d : Draft) (id : NodeId) : Content := (d.nodes[id]?.map (·.content)).getD .fragment

/-- The parent of a node. -/
def parent? (d : Draft) (id : NodeId) : Option NodeId := d.nodes[id]?.bind (·.parent)

/-- The children of a node. -/
def children (d : Draft) (id : NodeId) : Array NodeId := (d.nodes[id]?.map (·.children)).getD #[]

/-- The name of an element; any other node has a name that no element has. -/
def name (d : Draft) (id : NodeId) : ElementName :=
  match d.content id with
  | .element name _ => name
  | _ => ⟨.none, ""⟩

/-- Makes a detached node. -/
def make (d : Draft) (c : Content) : Draft × NodeId :=
  (⟨d.nodes.push ⟨c, none, #[]⟩⟩, d.nodes.size)

/-- Changes a node. -/
def change (d : Draft) (id : NodeId) (f : DraftNode → DraftNode) : Draft := ⟨d.nodes.modify id f⟩

/-- Takes a node out of its parent. -/
def detach (d : Draft) (id : NodeId) : Draft :=
  match d.parent? id with
  | none => d
  | some p =>
    let d := d.change p fun n => { n with children := n.children.filter (· != id) }
    d.change id fun n => { n with parent := none }

/-- Makes a node the last child of another. -/
def append (d : Draft) (parent child : NodeId) : Draft :=
  let d := d.detach child
  let d := d.change parent fun n => { n with children := n.children.push child }
  d.change child fun n => { n with parent := some parent }

/-- Puts a node right before another, in the parent of that one. -/
def insertBefore (d : Draft) (sibling child : NodeId) : Draft :=
  let d := d.detach child
  match d.parent? sibling with
  | none => d
  | some p =>
    let d := d.change p fun n =>
      let (before, after) := n.children.toList.span (· != sibling)
      { n with children := (before ++ child :: after).toArray }
    d.change child fun n => { n with parent := some p }

/-- Adds text to the end of a text node, if it is one. -/
def extendText? (d : Draft) (id : NodeId) (s : String) : Option Draft :=
  match d.content id with
  | .text _ =>
    some <| d.change id fun n =>
      match n with
      | ⟨.text t, p, cs⟩ => ⟨.text (t ++ s), p, cs⟩
      | n => n
  | _ => none

/-- Adds text at the end of a node. -/
def appendText (d : Draft) (parent : NodeId) (s : String) : Draft :=
  match ((d.children parent).back?).bind (d.extendText? · s) with
  | some d => d
  | none =>
    let (d, id) := d.make (.text s)
    d.append parent id

/-- Adds text right before a node that has a parent. -/
def insertTextBefore (d : Draft) (sibling : NodeId) (s : String) : Draft :=
  match d.parent? sibling with
  | none => d
  | some p =>
    let before := (d.children p).toList.takeWhile (· != sibling)
    match before.getLast?.bind (d.extendText? · s) with
    | some d => d
    | none =>
      let (d, id) := d.make (.text s)
      d.insertBefore sibling id

/-- Moves all children of a node to the end of another. -/
def moveChildren (d : Draft) (source target : NodeId) : Draft :=
  (d.children source).foldl (fun d child => d.append target child) d

/-- Gives an element the attributes that it does not have yet. -/
def addMissing (d : Draft) (id : NodeId) (attributes : List Attribute) : Draft :=
  d.change id fun n =>
    match n with
    | ⟨.element name old, p, cs⟩ =>
      let new := attributes.filter fun a => !old.any fun b => b.name == a.name
      ⟨.element name (old ++ new), p, cs⟩
    | n => n

/-- Makes an element; a template gets the node for what it holds. -/
def makeElement (d : Draft) (name : ElementName) (attributes : List Attribute) : Draft × NodeId :=
  let (d, id) := d.make (.element name attributes)
  if name.isHtml "template" then
    let (d, inside) := d.make .fragment
    (d.append id inside, id)
  else (d, id)

/-- The node that holds what is inside a template. -/
def templateContent (d : Draft) (id : NodeId) : NodeId := ((d.children id)[0]?).getD id

end Draft

end Pagewalk.Markup
