import Pagewalk.Markup.Modes.Body

/-!
# In tables

The insertion modes of tables and their parts. What may not stand in a table is taken as in the body and put
before the table.
-/

namespace Pagewalk.Markup.Build

/-- Takes a token as in the body, but puts what it gives before the table. -/
def foster (tok : Token) : Build Answer := do
  modify fun b => { b with fostering := true }
  let answer ← inBody tok
  modify fun b => { b with fostering := false }
  return answer

/-- Closes elements until the innermost one has one of these names. -/
def clearTo (names : List String) : Build Unit := popWhile fun n => !n.isHtmlIn names

/-- Back to the table. -/
def clearToTable : Build Unit := clearTo ["html", "table", "template"]

/-- Back to the group of rows. -/
def clearToBody : Build Unit := clearTo ["tbody", "tfoot", "thead", "template", "html"]

/-- Back to the row. -/
def clearToRow : Build Unit := clearTo ["tr", "template", "html"]

/-- Text in a table is kept until all of it is known; elsewhere it has no place. -/
def tableChars (tok : Token) : Build Answer := do
  if (← currentName).isHtmlIn ["table", "tbody", "tfoot", "thead", "tr"] then
    modify fun b => { b with originalMode := b.mode }
    return .again .inTableText tok
  else
    fault .tableCharacters
    foster tok

/-- The mode in a table. -/
def inTable (tok : Token) : Build Answer := do
  let otherwise : Build Answer := do
    fault .unexpectedToken
    foster tok
  match tok with
  | .null | .chars .. => tableChars tok
  | .comment s => appendComment s
  | .stop => inBody tok
  | .tag t =>
    if t.opens ["caption"] then
      clearToTable
      pushMarker
      let _ ← openTag t
      enter .inCaption
      return .done
    else if t.opens ["colgroup"] then
      clearToTable
      let _ ← openTag t
      enter .inColumnGroup
      return .done
    else if t.opens ["col"] then
      clearToTable
      let _ ← openPhantom "colgroup"
      return .again .inColumnGroup tok
    else if t.opens ["tbody", "tfoot", "thead"] then
      clearToTable
      let _ ← openTag t
      enter .inTableBody
      return .done
    else if t.opens ["td", "th", "tr"] then
      clearToTable
      let _ ← openPhantom "tbody"
      return .again .inTableBody tok
    else if t.opens ["table"] then
      fault .unexpectedToken
      if ← inScopeNamed tableScope "table" then
        popUntilNamed "table"
        return .again (← resetMode) tok
      else return .done
    else if t.closes ["table"] then
      if ← inScopeNamed tableScope "table" then
        popUntilNamed "table"
        enter (← resetMode)
        return .done
      else unexpected
    else if t.closes ["body", "caption", "col", "colgroup", "html", "tbody", "td", "tfoot", "th", "thead", "tr"] then
      unexpected
    else if t.opens ["style", "script", "template"] || t.closes ["template"] then inHead tok
    else if t.opens ["input"] then
      fault .unexpectedToken
      if isHiddenInput t then
        let _ ← insertTag t
        return .heeded
      else foster tok
    else if t.opens ["form"] then
      fault .unexpectedToken
      if !(← isOpen "template") && (← get).form.isNone then
        let id ← insertTag t
        modify fun b => { b with form := some id }
      return .done
    else otherwise

/-- The mode in the text of a table: text with more than blanks goes before the table. -/
def inTableText (tok : Token) : Build Answer := do
  match tok with
  | .null => unexpected
  | .chars c s =>
    modify fun b => { b with tableText := (c, s) :: b.tableText }
    return .done
  | tok =>
    let pending := (← get).tableText.reverse
    modify fun b => { b with tableText := [] }
    let solid := pending.any fun (c, s) =>
      match c with
      | .blank => false
      | .solid => true
      | .mixed => s.toList.any (!Text.isSpace ·)
    if solid then
      fault .tableText
      for (c, s) in pending do
        let _ ← foster (.chars c s)
    else
      for (_, s) in pending do
        let _ ← appendText s
    return .again (← get).originalMode tok

/-- The mode in a caption. -/
def inCaption (tok : Token) : Build Answer := do
  match tok with
  | .tag t =>
    if t.opens ["caption", "col", "colgroup", "tbody", "td", "tfoot", "th", "thead", "tr"] ||
        t.closes ["table", "caption"] then
      if ← inScopeNamed tableScope "caption" then
        popWhile impliedEnd
        expectToClose "caption"
        clearToMarker
        if t.closes ["caption"] then
          enter .inTable
          return .done
        else return .again .inTable tok
      else unexpected
    else if t.closes ["body", "col", "colgroup", "html", "tbody", "td", "tfoot", "th", "thead", "tr"] then unexpected
    else inBody tok
  | _ => inBody tok

/-- The mode in a group of columns. -/
def inColumnGroup (tok : Token) : Build Answer := do
  let otherwise : Build Answer := do
    if ← currentIs "colgroup" then
      pop
      return .again .inTable tok
    else unexpected
  match tok with
  | .chars .mixed s => return .split s
  | .chars .blank s => appendText s
  | .comment s => appendComment s
  | .stop => inBody tok
  | .tag t =>
    if t.opens ["html"] then mergeRoot t
    else if t.opens ["col"] then
      let _ ← insertTag t
      return .heeded
    else if t.closes ["colgroup"] then
      if ← currentIs "colgroup" then
        pop
        enter .inTable
        return .done
      else unexpected
    else if t.closes ["col"] then unexpected
    else if t.opens ["template"] || t.closes ["template"] then inHead tok
    else otherwise
  | _ => otherwise

/-- The mode in a group of rows. -/
def inTableBody (tok : Token) : Build Answer := do
  match tok with
  | .tag t =>
    if t.opens ["tr"] then
      clearToBody
      let _ ← openTag t
      enter .inRow
      return .done
    else if t.opens ["th", "td"] then
      fault .unexpectedToken
      clearToBody
      let _ ← openPhantom "tr"
      return .again .inRow tok
    else if t.closes ["tbody", "tfoot", "thead"] then
      if ← inScopeNamed tableScope t.name then
        clearToBody
        pop
        enter .inTable
        return .done
      else unexpected
    else if t.opens ["caption", "col", "colgroup", "tbody", "tfoot", "thead"] || t.closes ["table"] then
      let b ← get
      if ← inScope tableScope fun id => (b.draft.name id).isHtmlIn ["table", "tbody", "tfoot"] then
        clearToBody
        pop
        return .again .inTable tok
      else unexpected
    else if t.closes ["body", "caption", "col", "colgroup", "html", "td", "th", "tr"] then unexpected
    else inTable tok
  | _ => inTable tok

/-- Closes the row, if one is in scope, and takes the token again outside it. -/
def leaveRow (tok : Token) (else_ : Build Answer) : Build Answer := do
  if ← inScopeNamed tableScope "tr" then
    clearToRow
    pop
    return .again .inTableBody tok
  else else_

/-- The mode in a row. -/
def inRow (tok : Token) : Build Answer := do
  match tok with
  | .tag t =>
    if t.opens ["th", "td"] then
      clearToRow
      let _ ← openTag t
      enter .inCell
      pushMarker
      return .done
    else if t.closes ["tr"] then
      if ← inScopeNamed tableScope "tr" then
        clearToRow
        pop
        enter .inTableBody
        return .done
      else unexpected
    else if t.opens ["caption", "col", "colgroup", "tbody", "tfoot", "thead", "tr"] || t.closes ["table"] then
      leaveRow tok unexpected
    else if t.closes ["tbody", "tfoot", "thead"] then
      if ← inScopeNamed tableScope t.name then leaveRow tok (return .done) else unexpected
    else if t.closes ["body", "caption", "col", "colgroup", "html", "td", "th"] then unexpected
    else inTable tok
  | _ => inTable tok

/-- Closes the cell, which ought to be innermost. -/
def closeCell : Build Unit := do
  popWhile impliedEnd
  if !(← popUntil (·.isHtmlIn ["td", "th"])) then fault .cellNotClosed
  clearToMarker

/-- The mode in a cell. -/
def inCell (tok : Token) : Build Answer := do
  match tok with
  | .tag t =>
    if t.closes ["td", "th"] then
      if ← inScopeNamed tableScope t.name then
        popWhile impliedEnd
        expectToClose t.name
        clearToMarker
        enter .inRow
        return .done
      else unexpected
    else if t.opens ["caption", "col", "colgroup", "tbody", "td", "tfoot", "th", "thead", "tr"] then
      let b ← get
      if ← inScope tableScope fun id => (b.draft.name id).isHtmlIn ["td", "th"] then
        closeCell
        return .again .inRow tok
      else unexpected
    else if t.closes ["body", "caption", "col", "colgroup", "html"] then unexpected
    else if t.closes ["table", "tbody", "tfoot", "thead", "tr"] then
      if ← inScopeNamed tableScope t.name then
        closeCell
        return .again .inRow tok
      else unexpected
    else inBody tok
  | _ => inBody tok

end Pagewalk.Markup.Build
