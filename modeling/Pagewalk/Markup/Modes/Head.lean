import Pagewalk.Markup.Modes.Adoption

/-!
# Before the body

The insertion modes up to the body, and the two rules of the body that they share with it.
-/

namespace Pagewalk.Markup.Build

/-- A further tag of the outermost element only adds attributes to it. -/
def mergeRoot (t : Tag) : Build Answer := do
  fault .unexpectedToken
  if !(← isOpen "template") then
    let id ← root
    redraft fun d => d.addMissing id t.attributes
  return .done

/-- The end of the text inside templates closes them one by one. -/
def stopInTemplate : Build Answer := do
  if !(← isOpen "template") then return .done
  else
    fault .unexpectedToken
    popUntilNamed "template"
    clearToMarker
    modify fun b => { b with templateModes := b.templateModes.tail }
    enter (← resetMode)
    return .again (← resetMode) .stop

/-- The mode of the document itself. -/
def initial (tok : Token) : Build Answer := do
  match tok with
  | .chars .mixed s => return .split s
  | .chars .blank _ => return .done
  | .comment s => appendCommentTo Draft.document s
  | tok =>
    fault .unexpectedToken
    modify fun b => { b with leniency := .full }
    return .again .beforeHtml tok

/-- The mode before the outermost element. -/
def beforeHtml (tok : Token) : Build Answer := do
  let otherwise : Build Answer := do
    openRoot []
    return .again .beforeHead tok
  match tok with
  | .chars .mixed s => return .split s
  | .chars .blank _ => return .done
  | .comment s => appendCommentTo Draft.document s
  | .tag t =>
    if t.opens ["html"] then
      openRoot t.attributes
      enter .beforeHead
      return .done
    else if t.closes ["head", "body", "html", "br"] then otherwise
    else if t.kind == .closing then unexpected
    else otherwise
  | _ => otherwise

/-- The mode in the head. -/
def inHead (tok : Token) : Build Answer := do
  let otherwise : Build Answer := do
    pop
    return .again .afterHead tok
  match tok with
  | .chars .mixed s => return .split s
  | .chars .blank s => appendText s
  | .comment s => appendComment s
  | .tag t =>
    if t.opens ["html"] then mergeRoot t
    else if t.opens ["base", "basefont", "bgsound", "link", "meta"] then
      let _ ← insertTag t
      return .heeded
    else if t.opens ["title"] then openRaw t .escapable
    else if t.opens ["noframes", "style", "noscript"] then openRaw t .plain
    else if t.opens ["script"] then openRaw t .script
    else if t.closes ["head"] then
      pop
      enter .afterHead
      return .done
    else if t.closes ["body", "html", "br"] then otherwise
    else if t.opens ["template"] then
      let _ ← openTag t
      pushMarker
      noFrameset
      enter .inTemplate
      modify fun b => { b with templateModes := .inTemplate :: b.templateModes }
      return .done
    else if t.closes ["template"] then
      if !(← isOpen "template") then unexpected
      else
        popWhile thoroughImpliedEnd
        expectToClose "template"
        clearToMarker
        modify fun b => { b with templateModes := b.templateModes.tail }
        enter (← resetMode)
        return .done
    else if t.opens ["head"] || t.kind == .closing then unexpected
    else otherwise
  | _ => otherwise

/-- The mode before the head. -/
def beforeHead (tok : Token) : Build Answer := do
  let otherwise : Build Answer := do
    let id ← openPhantom "head"
    modify fun b => { b with head := some id }
    return .again .inHead tok
  match tok with
  | .chars .mixed s => return .split s
  | .chars .blank _ => return .done
  | .comment s => appendComment s
  | .tag t =>
    if t.opens ["html"] then mergeRoot t
    else if t.opens ["head"] then
      let id ← openTag t
      modify fun b => { b with head := some id }
      enter .inHead
      return .done
    else if t.closes ["head", "body", "html", "br"] then otherwise
    else if t.kind == .closing then unexpected
    else otherwise
  | _ => otherwise

/-- The mode after the head. -/
def afterHead (tok : Token) : Build Answer := do
  let otherwise : Build Answer := do
    let _ ← openPhantom "body"
    return .again .inBody tok
  match tok with
  | .chars .mixed s => return .split s
  | .chars .blank s => appendText s
  | .comment s => appendComment s
  | .tag t =>
    if t.opens ["html"] then mergeRoot t
    else if t.opens ["body"] then
      let _ ← openTag t
      noFrameset
      enter .inBody
      return .done
    else if t.opens ["frameset"] then
      let _ ← openTag t
      enter .inFrameset
      return .done
    else if t.opens ["base", "basefont", "bgsound", "link", "meta", "noframes", "script", "style", "template",
        "title"] then
      fault .unexpectedToken
      let head := ((← get).head).getD Draft.document
      push head
      let answer ← inHead tok
      removeOpen head
      return answer
    else if t.closes ["template"] then inHead tok
    else if t.closes ["body", "html", "br"] then otherwise
    else if t.opens ["head"] || t.kind == .closing then unexpected
    else otherwise
  | _ => otherwise

end Pagewalk.Markup.Build
