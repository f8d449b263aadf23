import Pagewalk.Document.Basic
import Pagewalk.Event.Resource
import Pagewalk.Script.World

/-!
# Events

What happens to a page is told by events: it was fetched, its reading began and ended, and a walk went down and up
through its elements. Each event belongs to a resource and has a name, which for a fetch ends with the sort of what
was fetched and for an element with its tag.
-/

namespace Pagewalk

/-- A fetch that was completed. -/
structure Fetch where
  resource : String
  /-- Where the resource was found in the end. -/
  url : String
  mediaType : String
  charset : Option String := none
  /-- The text, if it was decoded already. -/
  content : String := ""
  raw : Option (List UInt8) := none
  deriving DecidableEq, Repr, Inhabited

/-- The sort of what was fetched. -/
def Fetch.type (f : Fetch) : ResourceType := .ofMediaType f.mediaType

/-- An element with the document in which it stands. -/
structure PageElement where
  document : Document
  element : Element
  deriving Inhabited

/-- Where the tag of the element stands. -/
def PageElement.location? (p : PageElement) : Option Location := p.document.location? p.element

/-- A page that was read, with the window that shows it. -/
structure OpenPage where
  window : WindowId
  document : Document
  url : Option Url
  deriving Inhabited

/-- What can happen. -/
inductive Event where
  | fetchEnd (f : Fetch)
  | parseStart (resource : String)
  /-- The text that was read, unchanged, and the page that came of it. -/
  | parseEnd (resource html : String) (page : OpenPage)
  | traverseStart (resource : String)
  | element (resource : String) (target : PageElement)
  | traverseDown (resource : String) (target : PageElement)
  | traverseUp (resource : String) (target : PageElement)
  | traverseEnd (resource : String)
  deriving Inhabited

/-- The kinds of events. -/
inductive EventKind where
  | fetchEnd
  | parseStart
  | parseEnd
  | traverseStart
  | element
  | traverseDown
  | traverseUp
  | traverseEnd
  deriving DecidableEq, Repr

/-- The name of a kind. -/
def EventKind.name : EventKind → String
  | fetchEnd => "fetch::end"
  | parseStart => "parse::start::html"
  | parseEnd => "parse::end::html"
  | traverseStart => "traverse::start"
  | element => "element"
  | traverseDown => "traverse::down"
  | traverseUp => "traverse::up"
  | traverseEnd => "traverse::end"

namespace Event

/-- The kind of an event. -/
def kind : Event → EventKind
  | fetchEnd _ => .fetchEnd
  | parseStart _ => .parseStart
  | parseEnd .. => .parseEnd
  | traverseStart _ => .traverseStart
  | element .. => .element
  | traverseDown .. => .traverseDown
  | traverseUp .. => .traverseUp
  | traverseEnd _ => .traverseEnd

/-- The name of an event. -/
def name (e : Event) : String :=
  match e with
  | fetchEnd f => e.kind.name ++ "::" ++ f.type.name
  | element _ target => e.kind.name ++ "::" ++ target.element.tagName
  | _ => e.kind.name

/-- The resource to which an event belongs. -/
def resource : Event → String
  | fetchEnd f => f.resource
  | parseStart r => r
  | parseEnd r .. => r
  | traverseStart r => r
  | element r _ => r
  | traverseDown r _ => r
  | traverseUp r _ => r
  | traverseEnd r => r

/-- The element that an event tells of. -/
def target? : Event → Option PageElement
  | element _ target => some target
  | traverseDown _ target => some target
  | traverseUp _ target => some target
  | _ => none

end Event

/-! ### Filters

A filter says which events a listener hears.
-/

/-- Which events are heard. -/
inductive EventFilter where
  | all
  | kind (k : EventKind)
  /-- The elements with this tag, whatever the case of its letters. -/
  | element (tag : String)
  | fetch (type : ResourceType)
  deriving DecidableEq, Repr

/-- A filter lets an event through. -/
def EventFilter.admits : EventFilter → Event → Bool
  | all, _ => true
  | kind k, e => k == e.kind
  | element tag, .element _ target => Text.sameLetters target.element.localName tag
  | fetch type, .fetchEnd f => f.type == type
  | _, _ => false

end Pagewalk
