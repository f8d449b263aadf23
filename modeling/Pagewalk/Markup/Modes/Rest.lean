import Pagewalk.Markup.Modes.Table

/-!
# In choices, templates, framesets and after the body

The remaining insertion modes.
-/

namespace Pagewalk.Markup.Build

/-! ### Choices -/

/-- The mode in a choice. -/
def inSelect (tok : Token) : Build Answer := do
  match tok with
  | .null => unexpected
  | .chars _ s => appendText s
  | .comment s => appendComment s
  | .stop => inBody tok
  | .tag t =>
    if t.opens ["html"] then mergeRoot t
    else if t.opens ["option"] then
      if ← currentIs "option" then pop
      let _ ← openTag t
      return .done
    else if t.opens ["optgroup"] then
      if ← currentIs "option" then pop
      if ← currentIs "optgroup" then pop
      let _ ← openTag t
      return .done
    else if t.opens ["hr"] then
      if ← currentIs "option" then pop
      if ← currentIs "optgroup" then pop
      let _ ← insertTag t
      return .heeded
    else if t.closes ["optgroup"] then
      let b ← get
      let outer := ((b.stack[1]?).map fun id => (b.draft.name id).isHtml "optgroup").getD false
      if (← currentIs "option") && outer then pop
      if ← currentIs "optgroup" then
        pop
        return .done
      else unexpected
    else if t.closes ["option"] then
      if ← currentIs "option" then
        pop
        return .done
      else unexpected
    else if t.opens ["select"] || t.closes ["select"] then
      let found ← inScopeNamed selectScope "select"
      if !found || t.kind == .opening then fault .unexpectedToken
      if found then
        popUntilNamed "select"
        enter (← resetMode)
      return .done
    else if t.opens ["input", "keygen", "textarea"] then
      fault .unexpectedToken
      if ← inScopeNamed selectScope "select" then
        popUntilNamed "select"
        return .again (← resetMode) tok
      else return .done
    else if t.opens ["script", "template"] || t.closes ["template"] then inHead tok
    else unexpected

/-- The mode in a choice inside a table. -/
def inSelectInTable (tok : Token) : Build Answer := do
  let parts := ["caption", "table", "tbody", "tfoot", "thead", "tr", "td", "th"]
  match tok with
  | .tag t =>
    if t.opens parts then
      fault .unexpectedToken
      popUntilNamed "select"
      return .again (← resetMode) tok
    else if t.closes parts then
      fault .unexpectedToken
      if ← inScopeNamed tableScope t.name then
        popUntilNamed "select"
        return .again (← resetMode) tok
      else return .done
    else inSelect tok
  | _ => inSelect tok

/-! ### Templates -/

/-- Takes a token again in the mode that the content of a template calls for. -/
def templateAs (m : Mode) (tok : Token) : Build Answer := do
  modify fun b => { b with templateModes := m :: b.templateModes.tail }
  return .again m tok

/-- The mode in a template. -/
def inTemplate (tok : Token) : Build Answer := do
  match tok with
  | .chars .. | .comment _ => inBody tok
  | .null => unexpected
  | .stop => stopInTemplate
  | .tag t =>
    if t.opens ["base", "basefont", "bgsound", "link", "meta", "noframes", "script", "style", "template",
        "title"] || t.closes ["template"] then inHead tok
    else if t.opens ["caption", "colgroup", "tbody", "tfoot", "thead"] then templateAs .inTable tok
    else if t.opens ["col"] then templateAs .inColumnGroup tok
    else if t.opens ["tr"] then templateAs .inTableBody tok
    else if t.opens ["td", "th"] then templateAs .inRow tok
    else if t.kind == .opening then templateAs .inBody tok
    else unexpected

/-! ### After the body -/

/-- The mode after the body. -/
def afterBody (tok : Token) : Build Answer := do
  let otherwise : Build Answer := do
    fault .unexpectedToken
    return .again .inBody tok
  match tok with
  | .chars .mixed s => return .split s
  | .chars .blank _ => inBody tok
  | .comment s => appendCommentTo (← root) s
  | .stop => return .done
  | .tag t =>
    if t.opens ["html"] then mergeRoot t
    else if t.closes ["html"] then
      enter .afterAfterBody
      return .done
    else otherwise
  | _ => otherwise

/-- The mode after the end of the outermost element. -/
def afterAfterBody (tok : Token) : Build Answer := do
  let otherwise : Build Answer := do
    fault .unexpectedToken
    return .again .inBody tok
  match tok with
  | .chars .mixed s => return .split s
  | .chars .blank _ => inBody tok
  | .comment s => appendCommentTo Draft.document s
  | .stop => return .done
  | .tag t => if t.opens ["html"] then mergeRoot t else otherwise
  | _ => otherwise

/-! ### Framesets -/

/-- The mode in a frameset. -/
def inFrameset (tok : Token) : Build Answer := do
  match tok with
  | .chars .mixed s => return .split s
  | .chars .blank s => appendText s
  | .comment s => appendComment s
  | .stop =>
    if (← get).stack.length != 1 then fault .unexpectedToken
    return .done
  | .tag t =>
    if t.opens ["html"] then mergeRoot t
    else if t.opens ["frameset"] then
      let _ ← openTag t
      return .done
    else if t.closes ["frameset"] then
      if (← get).stack.length == 1 then unexpected
      else
        pop
        if !(← currentIs "frameset") then enter .afterFrameset
        return .done
    else if t.opens ["frame"] then
      let _ ← insertTag t
      return .heeded
    else if t.opens ["noframes"] then inHead tok
    else unexpected
  | _ => unexpected

/-- The mode after a frameset. -/
def afterFrameset (tok : Token) : Build Answer := do
  match tok with
  | .chars .mixed s => return .split s
  | .chars .blank s => appendText s
  | .comment s => appendComment s
  | .stop => return .done
  | .tag t =>
    if t.opens ["html"] then mergeRoot t
    else if t.closes ["html"] then
      enter .afterAfterFrameset
      return .done
    else if t.opens ["noframes"] then inHead tok
    else unexpected
  | _ => unexpected

/-- The mode after the end of a frameset document. -/
def afterAfterFrameset (tok : Token) : Build Answer := do
  match tok with
  | .chars .mixed s => return .split s
  | .chars .blank _ => inBody tok
  | .comment s => appendCommentTo Draft.document s
  | .stop => return .done
  | .tag t =>
    if t.opens ["html"] then mergeRoot t
    else if t.opens ["noframes"] then inHead tok
    else unexpected
  | _ => unexpected

/-! ### All modes -/

/-- Takes a token in a mode. -/
def take (m : Mode) (tok : Token) : Build Answer :=
  match m with
  | .initial => initial tok
  | .beforeHtml => beforeHtml tok
  | .beforeHead => beforeHead tok
  | .inHead => inHead tok
  | .afterHead => afterHead tok
  | .inBody => inBody tok
  | .text => text tok
  | .inTable => inTable tok
  | .inTableText => inTableText tok
  | .inCaption => inCaption tok
  | .inColumnGroup => inColumnGroup tok
  | .inTableBody => inTableBody tok
  | .inRow => inRow tok
  | .inCell => inCell tok
  | .inSelect => inSelect tok
  | .inSelectInTable => inSelectInTable tok
  | .inTemplate => inTemplate tok
  | .afterBody => afterBody tok
  | .inFrameset => inFrameset tok
  | .afterFrameset => afterFrameset tok
  | .afterAfterBody => afterAfterBody tok
  | .afterAfterFrameset => afterAfterFrameset tok

/-! ### Foreign content -/

/-- The opening tags of ordinary markup that end foreign content. -/
def breakoutNames : List String :=
  ["b", "big", "blockquote", "body", "br", "center", "code", "dd", "div", "dl", "dt", "em", "embed", "h1", "h2",
    "h3", "h4", "h5", "h6", "head", "hr", "i", "img", "li", "listing", "menu", "meta", "nobr", "ol", "p", "pre",
    "ruby", "s", "small", "span", "strong", "strike", "sub", "sup", "table", "tt", "u", "ul", "var"]

/-- A tag of ordinary markup ends the foreign content it stands in. -/
def breakOut (tok : Token) : Build Answer := do
  fault .unexpectedToken
  popWhile fun n => !(n.space == .html || isMathText n || isDrawingHtml n)
  take (← get).mode tok

/-- A closing tag in foreign content closes the nearest element of its name, in any letter case, unless an element
of ordinary markup stands between; `first` holds for the innermost element. -/
def closeForeign (t : Tag) (first : Bool) : List NodeId → Build Answer
  | [] => return .done
  | [_] => return .done
  | id :: rest => do
    let n ← nameOf id
    if !first && n.space == .html then take (← get).mode (.tag t)
    else if Text.sameLetters n.name t.name then
      modify fun b => { b with stack := rest }
      return .done
    else
      if first then fault .unexpectedToken
      closeForeign t false rest

/-- Takes a token in foreign content. -/
def takeForeign (tok : Token) : Build Answer := do
  match tok with
  | .null =>
    fault .unexpectedToken
    appendText "\ufffd"
  | .chars _ s =>
    if s.toList.any (!Text.isSpace ·) then noFrameset
    appendText s
  | .comment s => appendComment s
  | .stop => return .done
  | .tag t =>
    if t.opens breakoutNames || t.closes ["br", "p"] then breakOut tok
    else if t.opens ["font"] && ["color", "face", "size"].any fun n => (t.value? n).isSome then breakOut tok
    else if t.kind == .opening then openForeign t
    else closeForeign t true (← get).stack

end Pagewalk.Markup.Build
