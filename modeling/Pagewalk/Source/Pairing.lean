import Pagewalk.Document.Basic
import Pagewalk.Source.Position

/-!
# Pairing elements with tags

The reading of markup does not say where an element came from, so the start tags of the source are paired with the
elements in document order. An element takes the next tag if that tag produces it; tags that the reading may drop
are passed over for it. An element that needs no tag goes without one; any other looks a few tags ahead.
-/

namespace Pagewalk.Source

/-- The elements that are made without a tag when there is none. -/
def impliedNames : List String := ["html", "head", "body", "tbody", "tr", "colgroup"]

/-- The elements whose tags are dropped where they are out of place. -/
def droppedNames : List String :=
  ["html", "head", "body", "frameset", "frame", "caption", "col", "colgroup", "tbody", "thead", "tfoot", "tr", "td",
    "th"]

/-- How many tags an element that is out of place looks at. -/
def reach : Nat := 16

/-- A tag of this name produces an element of this name. -/
def produces (tag element : String) : Bool :=
  Text.sameLetters tag element || (tag == "image" && element == "img")

/-- A tag that is taken, or that may have been dropped before this element. -/
def isPassed (element : String) : Option StartTag → Bool
  | none => true
  | some t => droppedNames.contains t.name && !produces t.name element

/-- Takes the first of some tags that produces an element and leaves a gap in its place. -/
def takeAhead (element : String) : Nat → List (Option StartTag) → Option (Location × List (Option StartTag))
  | 0, _ => none
  | _ + 1, [] => none
  | n + 1, none :: tags => (takeAhead element n tags).map fun (l, tags) => (l, none :: tags)
  | n + 1, some t :: tags =>
    if produces t.name element then some (t.location, none :: tags)
    else (takeAhead element n tags).map fun (l, tags) => (l, some t :: tags)

/-- The location of the next element, and the tags left for those after it. A taken tag is a gap. -/
def pairNext (element : String) (tags : List (Option StartTag)) : Option Location × List (Option StartTag) :=
  let tags := tags.dropWhile Option.isNone
  let ahead := fun (_ : Unit) =>
    if impliedNames.contains element then (none, tags)
    else match takeAhead element reach tags with
      | none => (none, tags)
      | some (l, tags) => (some l, tags)
  match tags.dropWhile (isPassed element) with
  | some t :: rest => if produces t.name element then (some t.location, rest) else ahead ()
  | _ => ahead ()

/-- The locations of elements, given by their names, in order. -/
def pair (elements : List String) (tags : List (Option StartTag)) : List (Option Location) :=
  (elements.foldl (fun (acc, tags) element =>
    let (l, tags) := pairNext element tags
    (l :: acc, tags)) ([], tags)).1.reverse

/-- The keys of the located elements of a document, each with its location in a source. -/
def locate (source : String) (d : Document) : List (Key × Location) :=
  let elements := d.elements
  let found := pair (elements.map (·.localName)) ((startTags source).map some)
  (elements.zip found).filterMap fun (e, l) => l.map (e.key, ·)

end Pagewalk.Source
