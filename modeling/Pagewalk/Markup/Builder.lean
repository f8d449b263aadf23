import Pagewalk.Markup.Draft
import Pagewalk.Markup.Token

/-!
# The state of tree construction

Tree construction takes the items of the lexer one by one and makes a draft of the document. What it keeps is the
stack of open elements, innermost first, the list of active formatting elements, last first, the insertion mode
and a few marks. This module holds that state and the operations on it that the modes share.
-/

namespace Pagewalk.Markup

/-- The insertion modes. -/
inductive Mode where
  | initial
  | beforeHtml
  | beforeHead
  | inHead
  | afterHead
  | inBody
  | text
  | inTable
  | inTableText
  | inCaption
  | inColumnGroup
  | inTableBody
  | inRow
  | inCell
  | inSelect
  | inSelectInTable
  | inTemplate
  | afterBody
  | inFrameset
  | afterFrameset
  | afterAfterBody
  | afterAfterFrameset
  deriving DecidableEq, Repr, Inhabited

/-- What is known about a run of text. -/
inductive TextClass where
  | mixed
  | blank
  | solid
  deriving DecidableEq, Repr

/-- What a mode takes. -/
inductive Token where
  | tag (t : Tag)
  | comment (s : String)
  | chars (c : TextClass) (s : String)
  | null
  | stop
  deriving Repr

/-- What a mode answers. -/
inductive Answer where
  | done
  /-- Done, and the slash of a self-closing tag was heeded. -/
  | heeded
  /-- The token is to be taken again in a mode. -/
  | again (m : Mode) (t : Token)
  /-- The token is to be taken again in the mode that holds. -/
  | anew (t : Token)
  /-- The text is to be taken run by run, blanks apart. -/
  | split (s : String)
  | raw (kind : RawKind)
  | plaintext
  deriving Repr

/-- An entry of the list of active formatting elements. -/
inductive Formatting where
  | marker
  | element (id : NodeId) (tag : Tag)
  deriving Repr

/-- An entry stands for this element. -/
def Formatting.isFor (id : NodeId) : Formatting → Bool
  | .marker => false
  | .element other _ => other == id

/-- How leniently a document is laid out. -/
inductive Leniency where
  | none
  | limited
  | full
  deriving DecidableEq, Repr, Inhabited

/-- The state of tree construction. -/
structure Builder where
  draft : Draft := .empty
  /-- The faults noted so far, last first. -/
  faults : List Fault := []
  mode : Mode := .initial
  originalMode : Mode := .initial
  templateModes : List Mode := []
  /-- Text met in a table, last first. -/
  tableText : List (TextClass × String) := []
  leniency : Leniency := .none
  /-- The open elements, innermost first. -/
  stack : List NodeId := []
  /-- The active formatting elements, last first. -/
  formatting : List Formatting := []
  head : Option NodeId := none
  form : Option NodeId := none
  framesetOk : Bool := true
  skipLineFeed : Bool := false
  fostering : Bool := false
  deriving Inhabited

/-- A step of tree construction. -/
abbrev Build := StateM Builder

namespace Build

/-- Notes a fault. -/
def fault (f : Fault) : Build Unit := modify fun b => { b with faults := f :: b.faults }

/-- Notes that a token has no place here. -/
def unexpected : Build Answer := do
  fault .unexpectedToken
  return .done

/-- Changes the draft. -/
def redraft (f : Draft → Draft) : Build Unit := modify fun b => { b with draft := f b.draft }

/-- Makes a node in the draft. -/
def make (f : Draft → Draft × NodeId) : Build NodeId :=
  modifyGet fun b =>
    let (draft, id) := f b.draft
    (id, { b with draft })

/-- Sets the insertion mode. -/
def enter (m : Mode) : Build Unit := modify fun b => { b with mode := m }

/-- Notes that a frameset may no longer take the place of the body. -/
def noFrameset : Build Unit := modify fun b => { b with framesetOk := false }

/-! ### Names and scopes -/

/-- The name of a node. -/
def nameOf (id : NodeId) : Build ElementName := return (← get).draft.name id

/-- The innermost open element. -/
def current : Build NodeId := return ((← get).stack.head?).getD Draft.document

/-- The name of the innermost open element. -/
def currentName : Build ElementName := do nameOf (← current)

/-- The innermost open element has this name. -/
def currentIs (name : String) : Build Bool := return (← currentName).isHtml name

/-- The outermost open element. -/
def root : Build NodeId := return ((← get).stack.getLast?).getD Draft.document

/-- Some open element has this name. -/
def isOpen (name : String) : Build Bool := do
  let b ← get
  return b.stack.any fun id => (b.draft.name id).isHtml name

/-- Going outwards through the open elements, one that is wanted comes before one that ends the scope. -/
def scopeHas (draft : Draft) (ends : ElementName → Bool) (wanted : NodeId → Bool) : List NodeId → Bool
  | [] => false
  | id :: rest =>
    if wanted id then true else if ends (draft.name id) then false else scopeHas draft ends wanted rest

/-- Some element in scope is wanted. -/
def inScope (ends : ElementName → Bool) (wanted : NodeId → Bool) : Build Bool := do
  let b ← get
  return scopeHas b.draft ends wanted b.stack

/-- Some element in scope has this name. -/
def inScopeNamed (ends : ElementName → Bool) (name : String) : Build Bool := do
  let b ← get
  return scopeHas b.draft ends (fun id => (b.draft.name id).isHtml name) b.stack

/-- Elements of mathematics whose text is ordinary text. -/
def isMathText (n : ElementName) : Bool :=
  n.space == .mathml && ["mi", "mo", "mn", "ms", "mtext"].contains n.name

/-- Elements of drawings whose content is ordinary markup. -/
def isDrawingHtml (n : ElementName) : Bool :=
  n.space == .svg && ["foreignObject", "desc", "title"].contains n.name

/-- The ends of the usual scope. -/
def defaultScope (n : ElementName) : Bool :=
  n.isHtmlIn ["applet", "caption", "html", "table", "td", "th", "marquee", "object", "template"] ||
    isMathText n || isDrawingHtml n

/-- The ends of the scope of list items. -/
def listScope (n : ElementName) : Bool := defaultScope n || n.isHtmlIn ["ol", "ul"]

/-- The ends of the scope of paragraphs. -/
def buttonScope (n : ElementName) : Bool := defaultScope n || n.isHtml "button"

/-- The ends of the scope of table parts. -/
def tableScope (n : ElementName) : Bool := n.isHtmlIn ["html", "table", "template"]

/-- The ends of the scope of choices. -/
def selectScope (n : ElementName) : Bool := !n.isHtmlIn ["optgroup", "option"]

/-- Elements whose end tag may be left out nearly anywhere. -/
def impliedEnd (n : ElementName) : Bool :=
  n.isHtmlIn ["dd", "dt", "li", "option", "optgroup", "p", "rb", "rp", "rt", "rtc"]

/-- Elements whose end tag may be left out when a template ends. -/
def thoroughImpliedEnd (n : ElementName) : Bool :=
  impliedEnd n || n.isHtmlIn ["caption", "colgroup", "tbody", "td", "tfoot", "th", "thead", "tr"]

/-- The names of headings. -/
def headings : List String := ["h1", "h2", "h3", "h4", "h5", "h6"]

/-- Elements that do not end with an end tag of some other name. -/
def isSpecial (n : ElementName) : Bool :=
  n.isHtmlIn
    ["address", "applet", "area", "article", "aside", "base", "basefont", "bgsound", "blockquote", "body", "br",
      "button", "caption", "center", "col", "colgroup", "dd", "details", "dir", "div", "dl", "dt", "embed",
      "fieldset", "figcaption", "figure", "footer", "form", "frame", "frameset", "h1", "h2", "h3", "h4", "h5",
      "h6", "head", "header", "hgroup", "hr", "html", "iframe", "img", "input", "isindex", "li", "link",
      "listing", "main", "marquee", "menu", "meta", "nav", "noembed", "noframes", "noscript", "object", "ol", "p",
      "param", "plaintext", "pre", "script", "section", "select", "source", "style", "summary", "table", "tbody",
      "td", "template", "textarea", "tfoot", "th", "thead", "title", "tr", "track", "ul", "wbr", "xmp"]

/-! ### The stack of open elements -/

/-- Opens an element. -/
def push (id : NodeId) : Build Unit := modify fun b => { b with stack := id :: b.stack }

/-- Closes the innermost open element. -/
def pop : Build Unit := modify fun b => { b with stack := b.stack.tail }

/-- Takes the innermost occurrence of an element out of the stack. -/
def removeOpen (id : NodeId) : Build Unit := modify fun b => { b with stack := b.stack.erase id }

/-- Closes elements while the innermost one has a property. -/
def popWhile (p : ElementName → Bool) : Build Unit :=
  modify fun b => { b with stack := b.stack.dropWhile fun id => p (b.draft.name id) }

/-- Closes elements up to and including the first with a property, and answers whether that one was innermost. -/
def popUntil (p : ElementName → Bool) : Build Bool := do
  let b ← get
  let first := (b.stack.head?.map fun id => p (b.draft.name id)).getD false
  set { b with stack := (b.stack.dropWhile fun id => !p (b.draft.name id)).tail }
  return first

/-- Closes elements up to and including the first of this name. -/
def popUntilNamed (name : String) : Build Unit := do
  let _ ← popUntil (·.isHtml name)

/-- Closes elements up to and including the first of this name, which ought to be innermost. -/
def expectToClose (name : String) : Build Unit := do
  if !(← popUntil (·.isHtml name)) then fault .unexpectedOpenElement

/-- Closes the elements whose end tags may be left out, but for those of this name. -/
def closeImpliedBut (name : String) : Build Unit := popWhile fun n => impliedEnd n && !n.isHtml name

/-- Closes a paragraph and what is open in it. -/
def closeParagraph : Build Unit := do
  closeImpliedBut "p"
  expectToClose "p"

/-- Closes a paragraph if one is in scope. -/
def closeParagraphInScope : Build Unit := do
  if ← inScopeNamed buttonScope "p" then closeParagraph

/-! ### Insertion -/

/-- Where a node goes. -/
inductive Place where
  | lastOf (parent : NodeId)
  /-- Before a table, or at the end of the element that the table is in when the table has no parent. -/
  | beforeTable (table outer : NodeId)

/-- Going outwards through the open elements, the place for what may not stand in a table. -/
def fosterPlace (draft : Draft) (root : NodeId) : List NodeId → Place
  | [] => .lastOf root
  | id :: rest =>
    if (draft.name id).isHtml "template" then .lastOf (draft.templateContent id)
    else if (draft.name id).isHtml "table" then .beforeTable id (rest.head?.getD root)
    else fosterPlace draft root rest

/-- The place for a node, in the innermost open element or in a given one. -/
def place (target : Option NodeId) : Build Place := do
  let b ← get
  let target := target.getD (← current)
  let name := b.draft.name target
  if b.fostering && name.isHtmlIn ["table", "tbody", "tfoot", "thead", "tr"] then
    return fosterPlace b.draft (← root) b.stack
  else if name.isHtml "template" then return .lastOf (b.draft.templateContent target)
  else return .lastOf target

/-- Puts a node in its place. -/
def insertAt (p : Place) (id : NodeId) : Build Unit :=
  redraft fun d =>
    match p with
    | .lastOf parent => d.append parent id
    | .beforeTable table outer =>
      if (d.parent? table).isSome then d.insertBefore table id else d.append outer id

/-- Puts text in its place. -/
def insertTextAt (p : Place) (s : String) : Build Unit :=
  redraft fun d =>
    match p with
    | .lastOf parent => d.appendText parent s
    | .beforeTable table outer =>
      if (d.parent? table).isSome then d.insertTextBefore table s else d.appendText outer s

/-- Adds text. -/
def appendText (s : String) : Build Answer := do
  insertTextAt (← place none) s
  return .done

/-- Adds a comment. -/
def appendComment (s : String) : Build Answer := do
  let id ← make fun d => d.make (.comment s)
  insertAt (← place none) id
  return .done

/-- Adds a comment at the end of a node. -/
def appendCommentTo (parent : NodeId) (s : String) : Build Answer := do
  let id ← make fun d => d.make (.comment s)
  redraft fun d => d.append parent id
  return .done

/-- Makes an element and puts it in its place. -/
def insertElement (name : ElementName) (attributes : List Attribute) : Build NodeId := do
  let id ← make fun d => d.makeElement name attributes
  insertAt (← place none) id
  return id

/-- Makes an element, puts it in its place and opens it. -/
def openElement (name : ElementName) (attributes : List Attribute) : Build NodeId := do
  let id ← insertElement name attributes
  push id
  return id

/-- Opens the element of a tag. -/
def openTag (t : Tag) : Build NodeId := openElement (.html t.name) t.attributes

/-- Inserts the element of a tag without opening it. -/
def insertTag (t : Tag) : Build NodeId := insertElement (.html t.name) t.attributes

/-- Opens an element for which there is no tag. -/
def openPhantom (name : String) : Build NodeId := openElement (.html name) []

/-- Makes the outermost element. -/
def openRoot (attributes : List Attribute) : Build Unit := do
  let id ← make fun d => d.makeElement (.html "html") attributes
  push id
  redraft fun d => d.append Draft.document id

/-- Opens an element of raw text. -/
def openRaw (t : Tag) (kind : RawKind) : Build Answer := do
  let _ ← openTag t
  modify fun b => { b with originalMode := b.mode, mode := .text }
  return .raw kind

/-! ### The list of active formatting elements -/

/-- The entries after the last marker, last first. -/
def sinceMarker : List Formatting → List (NodeId × Tag)
  | [] => []
  | .marker :: _ => []
  | .element id tag :: rest => (id, tag) :: sinceMarker rest

/-- Forgets the entries after the last marker, and the marker. -/
def clearToMarker : Build Unit :=
  let rec clear : List Formatting → List Formatting
    | [] => []
    | .marker :: rest => rest
    | _ :: rest => clear rest
  modify fun b => { b with formatting := clear b.formatting }

/-- Sets a marker. -/
def pushMarker : Build Unit := modify fun b => { b with formatting := .marker :: b.formatting }

/-- Forgets the entry of an element. -/
def forget (id : NodeId) : Build Unit :=
  modify fun b => { b with formatting := b.formatting.eraseP (Formatting.isFor id) }

/-- Splits the list at the last entry that is a marker or stands for an open element: the entries after it, last
first, and the rest. -/
def closedEntries (stack : List NodeId) : List Formatting → List (NodeId × Tag) × List Formatting
  | [] => ([], [])
  | .marker :: rest => ([], .marker :: rest)
  | .element id tag :: rest =>
    if stack.contains id then ([], .element id tag :: rest)
    else
      let (closed, kept) := closedEntries stack rest
      ((id, tag) :: closed, kept)

/-- Opens again the formatting elements that were closed without an end tag of their own. -/
def reconstruct : Build Unit := do
  let b ← get
  let (closed, kept) := closedEntries b.stack b.formatting
  if !closed.isEmpty then
    let mut entries := kept
    -- They are opened in the order in which they were opened before.
    for (_, tag) in closed.reverse do
      let id ← openTag tag
      entries := .element id tag :: entries
    modify fun b => { b with formatting := entries }

/-- Two tags give the same element. -/
def sameElement (a b : Tag) : Bool :=
  a.kind == b.kind && a.name == b.name &&
    a.attributes.length == b.attributes.length && a.attributes.all b.attributes.contains

/-- Opens a formatting element; of three equal ones since the last marker the earliest is forgotten. -/
def openFormatting (t : Tag) : Build Unit := do
  let alike := (sinceMarker (← get).formatting).filter fun (_, old) => sameElement t old
  if alike.length ≥ 3 then
    if let some (id, _) := alike.getLast? then forget id
  let id ← openTag t
  modify fun b => { b with formatting := .element id t :: b.formatting }

/-! ### Modes -/

/-- The mode that the open elements call for. -/
def modeFor (b : Builder) : List NodeId → Mode
  | [] => .inBody
  | id :: rest =>
    let n := b.draft.name id
    let last := rest.isEmpty
    let outer := modeFor b rest
    if n.space != .html then outer
    else if n.name == "select" then
      -- A template hides the tables outside it.
      let inTable := rest.find? fun a => (b.draft.name a).isHtmlIn ["template", "table"]
      if (inTable.map fun a => (b.draft.name a).isHtml "table").getD false then .inSelectInTable else .inSelect
    else if n.name == "td" || n.name == "th" then if last then outer else .inCell
    else if n.name == "tr" then .inRow
    else if n.name == "tbody" || n.name == "thead" || n.name == "tfoot" then .inTableBody
    else if n.name == "caption" then .inCaption
    else if n.name == "colgroup" then .inColumnGroup
    else if n.name == "table" then .inTable
    else if n.name == "template" then b.templateModes.head?.getD .inBody
    else if n.name == "head" then if last then outer else .inHead
    else if n.name == "body" then .inBody
    else if n.name == "frameset" then .inFrameset
    else if n.name == "html" then if b.head.isNone then .beforeHead else .afterHead
    else outer

/-- The mode that the open elements call for. -/
def resetMode : Build Mode := do
  let b ← get
  return modeFor b b.stack

end Build

end Pagewalk.Markup
