import Pagewalk.Event.Basic

/-!
# Listings of events

A listing has one line for each event, its name. The lines about an element and about what is below it are indented
by two blanks for each element that the walk is in, and the line that tells of an element also says where its tag
stands.
-/

namespace Pagewalk.Command

/-- The lines of the events so far, and how many elements the walk is in. -/
structure Listing where
  depth : Nat := 0
  lines : Array String := #[]
  deriving Repr, Inhabited

namespace Listing

/-- So many steps of two blanks. -/
def indent (depth : Nat) : String := String.ofList (List.replicate (2 * depth) ' ')

/-- What the line of an event says. -/
def entry (e : Event) : String :=
  match e with
  | .element _ target =>
    match target.location? with
    | some l => e.name ++ " @" ++ toString l.line ++ ":" ++ toString l.column
    | none => e.name
  | _ => e.name

/-- The depth at which the line of an event stands: a walk that goes up has left the element already. -/
def depthAt (depth : Nat) (e : Event) : Nat := if e.kind = .traverseUp then depth - 1 else depth

/-- The depth after an event: a walk that goes down is in one element more. -/
def depthAfter (depth : Nat) (e : Event) : Nat :=
  if e.kind = .traverseDown then depthAt depth e + 1 else depthAt depth e

/-- Adds the line of an event. -/
def add (l : Listing) (e : Event) : Listing :=
  ⟨depthAfter l.depth e, l.lines.push (indent (depthAt l.depth e) ++ entry e)⟩

end Listing

end Pagewalk.Command
