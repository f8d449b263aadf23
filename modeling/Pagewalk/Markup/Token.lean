import Pagewalk.Markup.Fault
import Pagewalk.Markup.Name

/-!
# Tokens of markup

The lexer turns characters into items: tags, comments, document types, runs of text, NUL characters, the end, and
the faults met on the way, all in the order in which they are found.
-/

namespace Pagewalk.Markup

/-- Whether a tag opens or closes an element. -/
inductive TagKind where
  | opening
  | closing
  deriving DecidableEq, Repr, Inhabited

/-- A tag. -/
structure Tag where
  kind : TagKind
  name : String
  selfClosing : Bool
  attributes : List Attribute
  deriving DecidableEq, Repr, Inhabited

/-- An opening tag with one of these names. -/
def Tag.opens (t : Tag) (names : List String) : Bool := t.kind == .opening && names.contains t.name

/-- A closing tag with one of these names. -/
def Tag.closes (t : Tag) (names : List String) : Bool := t.kind == .closing && names.contains t.name

/-- The value of an attribute of a tag. -/
def Tag.value? (t : Tag) (name : String) : Option String :=
  (t.attributes.find? fun a => a.name == .plain name).map (·.value)

/-- A document type as it is written. -/
structure Doctype where
  name : Option String
  publicId : Option String
  systemId : Option String
  forceQuirks : Bool
  deriving DecidableEq, Repr, Inhabited

/-- What the lexer gives. -/
inductive Item where
  | fault (f : Fault)
  | doctype (d : Doctype)
  | tag (t : Tag)
  | comment (text : String)
  | chars (text : String)
  | null
  | stop
  deriving DecidableEq, Repr

/-- The kinds of text in which a tag is not a tag. -/
inductive RawKind where
  /-- References are read, and only the end tag of the element ends it. -/
  | escapable
  /-- Only the end tag of the element ends it. -/
  | plain
  /-- Script, outside any comment inside it. -/
  | script
  /-- Script inside a comment. -/
  | scriptComment
  /-- A script inside a comment inside a script. -/
  | scriptInComment
  deriving DecidableEq, Repr, Inhabited

/-- What the lexer has to change after a tag was taken. -/
inductive Feedback where
  | none
  | raw (kind : RawKind)
  | plaintext
  deriving DecidableEq, Repr

end Pagewalk.Markup
