import Pagewalk.Markup.Reference
import Pagewalk.Markup.Token

/-!
# The state of the lexer

The lexer is a machine: in each state it looks at the next character and gives items. Line ends are normalised as
characters are taken, so a carriage return, alone or before a line feed, is a line feed. A character that a state
leaves to the next one is held back and is not normalised again.
-/

namespace Pagewalk.Markup

/-- Which of the identifiers of a document type is meant. -/
inductive DoctypeId where
  | publicId
  | systemId
  deriving DecidableEq, Repr, Inhabited

/-- How the value of an attribute is delimited. -/
inductive ValueKind where
  | unquoted
  | single
  | double
  deriving DecidableEq, Repr, Inhabited

/-- The states of the lexer. -/
inductive LexState where
  | data
  | plaintext
  | raw (kind : RawKind)
  | tagOpen
  | endTagOpen
  | tagName
  | rawLessThan (kind : RawKind)
  | rawEndTagOpen (kind : RawKind)
  | rawEndTagName (kind : RawKind)
  | scriptEscapeStart
  | scriptEscapeStartDash
  | scriptDash (nested : Bool)
  | scriptDashDash (nested : Bool)
  | scriptNestStart
  | scriptNestEnd
  | beforeAttributeName
  | attributeName
  | afterAttributeName
  | beforeAttributeValue
  | attributeValue (kind : ValueKind)
  | afterAttributeValue
  | selfClosing
  | bogusComment
  | declaration
  | commentStart
  | commentStartDash
  | comment
  | commentLess
  | commentLessBang
  | commentLessBangDash
  | commentLessBangDashDash
  | commentEndDash
  | commentEnd
  | commentEndBang
  | doctype
  | beforeDoctypeName
  | doctypeName
  | afterDoctypeName
  | afterDoctypeKeyword (id : DoctypeId)
  | beforeDoctypeId (id : DoctypeId)
  | doctypeId (id : DoctypeId) (quote : Char)
  | afterDoctypeId (id : DoctypeId)
  | betweenDoctypeIds
  | bogusDoctype
  | cdata
  | cdataBracket
  | cdataEnd
  deriving DecidableEq, Repr, Inhabited

/-- The lexer: its state, the character it holds back, and the parts of the item it is building. -/
structure Lexer where
  state : LexState := .data
  held : Option Char := none
  skipLineFeed : Bool := false
  /-- How many characters a reference has looked at and left; no run goes beyond them. -/
  ahead : Nat := 0
  tagKind : TagKind := .opening
  tagName : String := ""
  tagSelfClosing : Bool := false
  /-- The finished attributes of the tag, last first. -/
  attributes : List Attribute := []
  attributeName : String := ""
  attributeValue : String := ""
  comment : String := ""
  doctype : Doctype := ⟨none, none, none, false⟩
  buffer : String := ""
  /-- The name of the last opening tag, which an end tag of raw text has to repeat. -/
  lastOpening : Option String := none
  deriving Inhabited

/-- The blanks between the parts of a tag. -/
def isTagSpace (c : Char) : Bool := c == '\t' || c == '\n' || c == '\x0c' || c == ' '

/-- U+FFFD, which stands for a NUL character where one is not dropped. -/
def substitute : Char := Char.ofNat 0xFFFD

namespace Lexer

/-- The lexer after so many characters more. -/
def pass (l : Lexer) (count : Nat) : Lexer := { l with ahead := l.ahead - count }

/-- The next character, normalised, with the lexer and the text after it. -/
def next (l : Lexer) (input : List Char) : Option (Char × Lexer × List Char) :=
  match l.held with
  | some c => some (c, { l with held := none }, input)
  | none =>
    let (l, rest) := match l.skipLineFeed, input with
      | true, '\n' :: rest => (l.pass 1, rest)
      | _, _ => (l, input)
    match rest with
    | [] => none
    | '\r' :: rest => some ('\n', { l.pass 1 with skipLineFeed := true }, rest)
    | c :: rest => some (c, { l.pass 1 with skipLineFeed := false }, rest)

/-- Whether there is no run to take: a character is held back or a line feed may have to be skipped. -/
def slow (l : Lexer) : Bool := l.held.isSome || l.skipLineFeed

/-- The lexer in another state. -/
def goTo (l : Lexer) (s : LexState) : Lexer := { l with state := s }

/-- The lexer in another state, with a character left to it. -/
def leave (l : Lexer) (s : LexState) (c : Char) : Lexer := { l with state := s, held := some c }

/-! ### Tags -/

/-- Ends the attribute that is being read; a name that stands twice is dropped. -/
def finishAttribute (l : Lexer) : Lexer × List Item :=
  if l.attributeName.isEmpty then (l, [])
  else if l.attributes.any fun a => a.name.name == l.attributeName then
    ({ l with attributeName := "", attributeValue := "" }, [.fault .duplicateAttribute])
  else
    ({ l with
        attributes := ⟨.plain l.attributeName, l.attributeValue⟩ :: l.attributes
        attributeName := ""
        attributeValue := "" }, [])

/-- Begins an attribute. -/
def startAttribute (l : Lexer) (c : Char) : Lexer × List Item :=
  let (l, items) := l.finishAttribute
  ({ l with attributeName := l.attributeName.push c, state := .attributeName }, items)

/-- Begins a tag. -/
def startTag (l : Lexer) (kind : TagKind) (c : Char) : Lexer :=
  { l with tagKind := kind, tagName := c.toString, tagSelfClosing := false, attributes := [] }

/-- Gives the tag that was read; the text after it is ordinary until the taker says otherwise. -/
def giveTag (l : Lexer) : Lexer × List Item :=
  let (l, items) := l.finishAttribute
  let faults := match l.tagKind with
    | .opening => []
    | .closing =>
      (if l.attributes.isEmpty then [] else [Item.fault .attributesOnEndTag]) ++
        (if l.tagSelfClosing then [.fault .selfClosingEndTag] else [])
  let tag := Item.tag ⟨l.tagKind, l.tagName, l.tagSelfClosing, l.attributes.reverse⟩
  let last := if l.tagKind == .opening then some l.tagName else l.lastOpening
  ({ l with state := .data, tagName := "", attributes := [], lastOpening := last }, items ++ faults ++ [tag])

/-- The tag being read ends the raw text it stands in. -/
def endsRaw (l : Lexer) : Bool := l.tagKind == .closing && l.lastOpening == some l.tagName

/-! ### Comments and document types -/

/-- Gives the comment that was read. -/
def giveComment (l : Lexer) : Lexer × List Item :=
  ({ l with state := .data, comment := "" }, [.comment l.comment])

/-- The comment with more text. -/
def addComment (l : Lexer) (s : String) : Lexer := { l with comment := l.comment ++ s }

/-- Gives the document type that was read. -/
def giveDoctype (l : Lexer) : Lexer × List Item :=
  ({ l with state := .data, doctype := ⟨none, none, none, false⟩ }, [.doctype l.doctype])

/-- The document type with another character at the end of its name. -/
def addDoctypeName (l : Lexer) (c : Char) : Lexer :=
  { l with doctype := { l.doctype with name := some ((l.doctype.name.getD "").push c) } }

/-- The document type marked as one that asks for lenient layout. -/
def spoilDoctype (l : Lexer) : Lexer := { l with doctype := { l.doctype with forceQuirks := true } }

/-- The document type with an identifier changed. -/
def mapDoctypeId (l : Lexer) (id : DoctypeId) (f : Option String → Option String) : Lexer :=
  match id with
  | .publicId => { l with doctype := { l.doctype with publicId := f l.doctype.publicId } }
  | .systemId => { l with doctype := { l.doctype with systemId := f l.doctype.systemId } }

/-- Begins an identifier after its opening quote. -/
def startDoctypeId (l : Lexer) (id : DoctypeId) (quote : Char) : Lexer :=
  (l.mapDoctypeId id fun _ => some "").goTo (.doctypeId id quote)

/-- The text with a literal taken off its front, in any letter case if `folded`; a line feed that is to be skipped
is skipped first, whether or not the literal stands there. -/
def take? (l : Lexer) (folded : Bool) (literal : String) (input : List Char) :
    Lexer × List Char × Bool :=
  let input := match l.skipLineFeed, input with
    | true, '\n' :: rest => rest
    | _, _ => input
  let l := { l with skipLineFeed := false }
  let front := String.ofList (input.take literal.length)
  let found := if folded then Text.sameLetters front literal else front == literal
  if found then (l, input.drop literal.length, true) else (l, input, false)

end Lexer

end Pagewalk.Markup
