import Pagewalk.Markup.Modes.Head
import Pagewalk.Markup.Foreign

/-!
# In the body

The insertion mode of the body, in which most markup is taken, and that of raw text.
-/

namespace Pagewalk.Markup.Build

/-- The body element, if it is open in its usual place. -/
def body? : Build (Option NodeId) := do
  let b ← get
  return (b.stack.reverse[1]?).filter fun id => (b.draft.name id).isHtml "body"

/-- At the end of the body nothing may be open whose end tag is needed. -/
def checkBodyEnd : Build Unit := do
  let b ← get
  let fine (n : ElementName) := n.isHtmlIn
    ["dd", "dt", "li", "optgroup", "option", "p", "rp", "rt", "tbody", "td", "tfoot", "th", "thead", "tr", "body",
      "html"]
  if b.stack.any fun id => !fine (b.draft.name id) then fault .openTagAtBodyEnd

/-- Going outwards, the list item that a new one closes; a special element that is no address, division or
paragraph hides it. -/
def itemToClose? (draft : Draft) (names : List String) : List NodeId → Option String
  | [] => none
  | id :: rest =>
    let n := draft.name id
    if n.isHtmlIn names then some n.name
    else if isSpecial n && !n.isHtmlIn ["address", "div", "p"] then none
    else itemToClose? draft names rest

/-- The opening tag of a list item. -/
def openItem (t : Tag) : Build Answer := do
  noFrameset
  let b ← get
  let names := if t.name == "li" then ["li"] else ["dd", "dt"]
  if let some name := itemToClose? b.draft names b.stack then
    closeImpliedBut name
    expectToClose name
  closeParagraphInScope
  let _ ← openTag t
  return .done

/-- The opening tag of a form. -/
def openForm (t : Tag) : Build Answer := do
  let inTemplate ← isOpen "template"
  if (← get).form.isSome && !inTemplate then fault .nestedForms
  else
    closeParagraphInScope
    let id ← openTag t
    if !inTemplate then modify fun b => { b with form := some id }
  return .done

/-- The closing tag of a form. -/
def closeForm : Build Answer := do
  if !(← isOpen "template") then
    match (← get).form with
    | none => fault .noFormToClose
    | some form =>
      modify fun b => { b with form := none }
      if !(← inScope defaultScope (· == form)) then fault .formOutOfScope
      else
        popWhile impliedEnd
        let innermost ← current
        -- What is open in the form stays open.
        removeOpen form
        if innermost != form then fault .formNotCurrent
  else if !(← inScopeNamed defaultScope "form") then fault .formOutOfScope
  else
    popWhile impliedEnd
    if !(← currentIs "form") then fault .formNotCurrent
    popUntilNamed "form"
  return .done

/-- The opening tag of a link closes one that is still open or that formats what follows. -/
def openAnchor (t : Tag) : Build Answer := do
  let b ← get
  match (sinceMarker b.formatting).find? fun (id, _) => (b.draft.name id).isHtml "a" with
  | none => pure ()
  | some (id, _) =>
    fault .unexpectedToken
    adopt "a"
    -- Adoption leaves the old link alone where it is out of scope.
    forget id
    removeOpen id
  reconstruct
  openFormatting t
  return .done

/-- The names of the plain formatting elements. -/
def formattingNames : List String :=
  ["b", "big", "code", "em", "font", "i", "s", "small", "strike", "strong", "tt", "u"]

/-- The names of blocks that close a paragraph. -/
def blockNames : List String :=
  ["address", "article", "aside", "blockquote", "center", "details", "dialog", "dir", "div", "dl", "fieldset",
    "figcaption", "figure", "footer", "header", "hgroup", "main", "nav", "ol", "section", "summary", "ul", "menu"]

/-- An input that is not shown. -/
def isHiddenInput (t : Tag) : Bool := (t.value? "type").any (Text.sameLetters · "hidden")

/-- A void element in running text. -/
def insertVoid (t : Tag) (keepFrameset : Bool) : Build Answer := do
  reconstruct
  let _ ← insertTag t
  if !keepFrameset then noFrameset
  return .heeded

/-- A further opening tag of the body only adds attributes to it. -/
def mergeBody (t : Tag) : Build Answer := do
  fault .unexpectedToken
  match ← body? with
  | some id =>
    if (← get).stack.length != 1 && !(← isOpen "template") then
      noFrameset
      redraft fun d => d.addMissing id t.attributes
  | none => pure ()
  return .done

/-- A frameset takes the place of a body that holds nothing yet. -/
def replaceBody (t : Tag) : Build Answer := do
  fault .unexpectedToken
  if (← get).framesetOk then
    match ← body? with
    | some id =>
      redraft fun d => d.detach id
      -- The root alone stays open.
      modify fun b => { b with stack := b.stack.drop (b.stack.length - 1) }
      let _ ← openTag t
      enter .inFrameset
    | none => pure ()
  return .done

/-- An opening tag in the body. -/
def openInBody (t : Tag) : Build Answer := do
  let name := t.name
  if name == "html" then mergeRoot t
  else if ["base", "basefont", "bgsound", "link", "meta", "noframes", "script", "style", "template",
      "title"].contains name then inHead (.tag t)
  else if name == "body" then mergeBody t
  else if name == "frameset" then replaceBody t
  else if blockNames.contains name || name == "p" || name == "search" then
    closeParagraphInScope
    let _ ← openTag t
    return .done
  else if headings.contains name then
    closeParagraphInScope
    if (← currentName).isHtmlIn headings then
      fault .nestedHeadings
      pop
    let _ ← openTag t
    return .done
  else if name == "pre" || name == "listing" then
    closeParagraphInScope
    let _ ← openTag t
    modify fun b => { b with skipLineFeed := true, framesetOk := false }
    return .done
  else if name == "form" then openForm t
  else if name == "li" || name == "dd" || name == "dt" then openItem t
  else if name == "plaintext" then
    closeParagraphInScope
    let _ ← openTag t
    return .plaintext
  else if name == "button" then
    if ← inScopeNamed defaultScope "button" then
      fault .nestedButtons
      popWhile impliedEnd
      popUntilNamed "button"
    reconstruct
    let _ ← openTag t
    noFrameset
    return .done
  else if name == "a" then openAnchor t
  else if formattingNames.contains name then
    reconstruct
    openFormatting t
    return .done
  else if name == "nobr" then
    reconstruct
    if ← inScopeNamed defaultScope "nobr" then
      fault .nestedNobr
      adopt "nobr"
      reconstruct
    openFormatting t
    return .done
  else if name == "applet" || name == "marquee" || name == "object" then
    reconstruct
    let _ ← openTag t
    pushMarker
    noFrameset
    return .done
  else if name == "table" then
    -- Where all is lenient a table may stand in a paragraph.
    if (← get).leniency != .full then closeParagraphInScope
    let _ ← openTag t
    noFrameset
    enter .inTable
    return .done
  else if ["area", "br", "embed", "img", "keygen", "wbr"].contains name then insertVoid t false
  else if name == "input" then insertVoid t (isHiddenInput t)
  else if name == "param" || name == "source" || name == "track" then
    let _ ← insertTag t
    return .heeded
  else if name == "hr" then
    closeParagraphInScope
    let _ ← insertTag t
    noFrameset
    return .heeded
  else if name == "image" then
    fault .unexpectedToken
    insertVoid { t with name := "img" } false
  else if name == "textarea" then
    modify fun b => { b with skipLineFeed := true, framesetOk := false }
    openRaw t .escapable
  else if name == "xmp" then
    closeParagraphInScope
    reconstruct
    noFrameset
    openRaw t .plain
  else if name == "iframe" then
    noFrameset
    openRaw t .plain
  else if name == "noembed" || name == "noscript" then openRaw t .plain
  else if name == "select" then
    reconstruct
    let _ ← openTag t
    noFrameset
    let inTable := [Mode.inTable, .inCaption, .inTableBody, .inRow, .inCell].contains (← get).mode
    enter (if inTable then .inSelectInTable else .inSelect)
    return .done
  else if name == "optgroup" || name == "option" then
    if ← currentIs "option" then pop
    reconstruct
    let _ ← openTag t
    return .done
  else if name == "rb" || name == "rtc" then
    if ← inScopeNamed defaultScope "ruby" then popWhile impliedEnd
    if !(← currentIs "ruby") then fault .unexpectedToken
    let _ ← openTag t
    return .done
  else if name == "rp" || name == "rt" then
    if ← inScopeNamed defaultScope "ruby" then closeImpliedBut "rtc"
    if !((← currentName).isHtmlIn ["rtc", "ruby"]) then fault .unexpectedToken
    let _ ← openTag t
    return .done
  else if name == "math" then enterForeign .mathml t
  else if name == "svg" then enterForeign .svg t
  else if ["caption", "col", "colgroup", "frame", "head", "tbody", "td", "tfoot", "th", "thead", "tr"].contains
      name then unexpected
  else
    reconstruct
    let _ ← openTag t
    return .done

/-- A closing tag in the body. -/
def closeInBody (t : Tag) : Build Answer := do
  let name := t.name
  if name == "template" then inHead (.tag t)
  else if name == "body" then
    if ← inScopeNamed defaultScope "body" then
      checkBodyEnd
      enter .afterBody
    else fault .bodyEndOutOfScope
    return .done
  else if name == "html" then
    if ← inScopeNamed defaultScope "body" then
      checkBodyEnd
      return .again .afterBody (.tag t)
    else
      fault .htmlEndOutOfScope
      return .done
  else if blockNames.contains name || ["button", "listing", "pre", "search"].contains name then
    if !(← inScopeNamed defaultScope name) then unexpected
    else
      popWhile impliedEnd
      expectToClose name
      return .done
  else if name == "form" then closeForm
  else if name == "p" then
    if !(← inScopeNamed buttonScope "p") then
      -- An end tag without a paragraph makes an empty one.
      fault .noParagraphToClose
      let _ ← openPhantom "p"
    closeParagraph
    return .done
  else if name == "li" || name == "dd" || name == "dt" then
    if ← inScopeNamed (if name == "li" then listScope else defaultScope) name then
      closeImpliedBut name
      expectToClose name
    else fault .noItemToClose
    return .done
  else if headings.contains name then
    let b ← get
    if ← inScope defaultScope fun id => (b.draft.name id).isHtmlIn headings then
      popWhile impliedEnd
      if !(← currentIs name) then fault .wrongHeadingClosed
      -- The end tag of one heading closes any other.
      let _ ← popUntil (·.isHtmlIn headings)
    else fault .noHeadingToClose
    return .done
  else if name == "a" || name == "nobr" || formattingNames.contains name then
    adopt name
    return .done
  else if name == "applet" || name == "marquee" || name == "object" then
    if !(← inScopeNamed defaultScope name) then unexpected
    else
      popWhile impliedEnd
      expectToClose name
      clearToMarker
      return .done
  else if name == "br" then
    fault .unexpectedToken
    insertVoid { t with kind := .opening, attributes := [] } false
  else
    closeNamed name
    return .done

/-- The mode in the body. -/
def inBody (tok : Token) : Build Answer := do
  match tok with
  | .null => unexpected
  | .chars _ s =>
    reconstruct
    if s.toList.any (!Text.isSpace ·) then noFrameset
    appendText s
  | .comment s => appendComment s
  | .tag t => if t.kind == .opening then openInBody t else closeInBody t
  | .stop =>
    if (← get).templateModes.isEmpty then
      checkBodyEnd
      return .done
    else stopInTemplate

/-- The mode in raw text. -/
def text (tok : Token) : Build Answer := do
  match tok with
  | .chars _ s => appendText s
  | .stop =>
    fault .unexpectedToken
    pop
    return .again (← get).originalMode tok
  | .tag _ =>
    pop
    modify fun b => { b with mode := b.originalMode }
    return .done
  | .comment _ | .null => return .done

end Pagewalk.Markup.Build
