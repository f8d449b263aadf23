import Pagewalk.Document.Basic
import Pagewalk.Markup.Construction

/-!
# From a draft to a document

The tree of a draft is copied from the document node down, and each tree that was taken out is copied by itself.
The root is the first element under the document node.
-/

namespace Pagewalk

open Markup

/-- The node of a draft with what is below it, to the given depth; a node that no page holds is left out. -/
def Markup.Draft.nodeAt? (d : Draft) : Nat → NodeId → Option Node
  | 0, _ => none
  | depth + 1, id =>
    let kids := fun (_ : Unit) => (d.children id).toList.filterMap (d.nodeAt? depth)
    match d.content id with
    | .element name attributes => some (.element ⟨id, name, attributes⟩ (kids ()))
    | .fragment => some (.fragment (kids ()))
    | .text s => some (.text s)
    | .comment s => some (.comment s)
    | .document => none
    | .doctype _ => none

/-- A node beside the root. -/
def Markup.Draft.outerAt? (d : Draft) (id : NodeId) : Option Outer :=
  match d.content id with
  | .doctype name => some (.doctype name)
  | .comment s => some (.comment s)
  | _ => none

/-- A node of a draft is an element. -/
def Markup.Draft.isElement (d : Draft) (id : NodeId) : Bool :=
  match d.content id with
  | .element .. => true
  | _ => false

/-- The trees of a draft that have no place in the document, in the order in which their tops were made. -/
def Markup.Draft.detached (d : Draft) : List Node :=
  ((List.range d.nodes.size).filter fun id => id != Draft.document && (d.parent? id).isNone).filterMap
    (d.nodeAt? d.nodes.size)

/-- The document of a draft; no locations are known. -/
def Document.ofDraft (d : Draft) (faults : List Fault) : Document :=
  let (before, rest) := (d.children Draft.document).toList.span fun id => !d.isElement id
  let root := rest.head?.bind (d.nodeAt? d.nodes.size)
  let (data, kids) := match root with
    | some (.element data kids) => (data, kids)
    | _ => (⟨0, .html "html", []⟩, [])
  { before := before.filterMap d.outerAt?
    rootData := data
    rootKids := kids
    after := rest.tail.filterMap d.outerAt?
    detached := d.detached
    faults
    locations := ∅
    number := 0 }

/-- The document of a text; no locations are known. -/
def Document.ofText (s : String) : Document :=
  let (draft, faults) := Draft.ofText s
  .ofDraft draft faults

end Pagewalk
