import Pagewalk.Document.Basic
import Pagewalk.Selector.Matching
import Pagewalk.Selector.Parser

/-!
# Queries

A document answers a query with the matching elements in the order in which they were made, an element with those
below it in document order. For a query of an element the scope is that element, and otherwise the root.
-/

namespace Pagewalk

/-- The matching elements of a document, in the order of creation. -/
def Document.select (d : Document) (s : Selector) : List Element :=
  d.inCreationOrder.filter (·.matchesWithin none s)

/-- The matching elements below an element, in document order. -/
def Element.select (e : Element) (s : Selector) : List Element :=
  e.descendants.filter (·.matchesWithin (some e.key) s)

/-- All elements of a document that match what a text writes. -/
def Document.queryAll (d : Document) (selector : String) : Except Error (List Element) :=
  (Selector.read selector).map d.select

/-- The first element of a document that matches what a text writes. -/
def Document.query (d : Document) (selector : String) : Except Error (Option Element) :=
  (d.queryAll selector).map (·.head?)

/-- All elements below an element that match what a text writes. -/
def Element.queryAll (e : Element) (selector : String) : Except Error (List Element) :=
  (Selector.read selector).map e.select

/-- The first element below an element that matches what a text writes. -/
def Element.query (e : Element) (selector : String) : Except Error (Option Element) :=
  (e.queryAll selector).map (·.head?)

/-- An element matches what a text writes. -/
def Element.matchesText (e : Element) (selector : String) : Except Error Bool :=
  (Selector.read selector).map fun s => e.matchesWithin none s

end Pagewalk
