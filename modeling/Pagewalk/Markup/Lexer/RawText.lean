import Pagewalk.Markup.Lexer

/-!
# Inside raw text

The states that look for the end tag of raw text, and those that follow comments and nested scripts inside a
script, as far as they look at one character.
-/

namespace Pagewalk.Markup.Lexer

/-- The raw text of a comment in a script, in a script of its own or not. -/
def commentKind (nested : Bool) : RawKind := if nested then .scriptInComment else .scriptComment

/-- After a less-than sign in raw text. -/
def onRawLessThan (l : Lexer) (kind : RawKind) (c : Char) : Lexer × List Item :=
  match kind with
  | .scriptComment =>
    if c == '/' then ({ l with buffer := "" }.goTo (.rawEndTagOpen kind), [])
    else if c.isAlpha then
      ({ l with buffer := c.toLower.toString }.goTo .scriptNestStart, [.chars "<", .chars c.toString])
    else (l.leave (.raw kind) c, [.chars "<"])
  | .scriptInComment =>
    if c == '/' then ({ l with buffer := "" }.goTo .scriptNestEnd, [.chars "/"])
    else (l.leave (.raw kind) c, [])
  | _ =>
    if c == '/' then ({ l with buffer := "" }.goTo (.rawEndTagOpen kind), [])
    else if c == '!' && kind == .script then (l.goTo .scriptEscapeStart, [.chars "<", .chars "!"])
    else (l.leave (.raw kind) c, [.chars "<"])

/-- After a less-than sign and a slash in raw text. -/
def onRawEndTagOpen (l : Lexer) (kind : RawKind) (c : Char) : Lexer × List Item :=
  if c.isAlpha then
    ({ l.startTag .closing c.toLower with buffer := l.buffer.push c }.goTo (.rawEndTagName kind), [])
  else (l.leave (.raw kind) c, [.chars "<", .chars "/"])

/-- In the name of a tag that may end raw text. -/
def onRawEndTagName (l : Lexer) (kind : RawKind) (c : Char) : Lexer × List Item :=
  if l.endsRaw && isTagSpace c then ({ l with buffer := "" }.goTo .beforeAttributeName, [])
  else if l.endsRaw && c == '/' then ({ l with buffer := "" }.goTo .selfClosing, [])
  else if l.endsRaw && c == '>' then { l with buffer := "" }.giveTag
  else if c.isAlpha then ({ l with tagName := l.tagName.push c.toLower, buffer := l.buffer.push c }, [])
  else
    ({ l with tagName := "", attributes := [], buffer := "" }.leave (.raw kind) c,
      [.chars "<", .chars "/", .chars l.buffer])

/-- After the start of a comment in a script. -/
def onScriptEscapeStart (l : Lexer) (c : Char) : Lexer × List Item :=
  if c == '-' then (l.goTo .scriptEscapeStartDash, [.chars "-"]) else (l.leave (.raw .script) c, [])

/-- After the start of a comment in a script and a dash. -/
def onScriptEscapeStartDash (l : Lexer) (c : Char) : Lexer × List Item :=
  if c == '-' then (l.goTo (.scriptDashDash false), [.chars "-"]) else (l.leave (.raw .script) c, [])

/-- A character of a comment in a script that is not a dash. -/
def scriptCommentChar (l : Lexer) (nested : Bool) (c : Char) : Lexer × List Item :=
  if c == '<' then (l.goTo (.rawLessThan (commentKind nested)), if nested then [.chars "<"] else [])
  else if c == '\x00' then
    (l.goTo (.raw (commentKind nested)), [.fault .badCharacter, .chars substitute.toString])
  else (l.goTo (.raw (commentKind nested)), [.chars c.toString])

/-- After a dash in a comment in a script. -/
def onScriptDash (l : Lexer) (nested : Bool) (c : Char) : Lexer × List Item :=
  if c == '-' then (l.goTo (.scriptDashDash nested), [.chars "-"]) else l.scriptCommentChar nested c

/-- After two dashes in a comment in a script. -/
def onScriptDashDash (l : Lexer) (nested : Bool) (c : Char) : Lexer × List Item :=
  if c == '-' then (l, [.chars "-"])
  else if c == '>' then (l.goTo (.raw .script), [.chars ">"])
  else l.scriptCommentChar nested c

/-- In a name that may begin or end a script of its own; `inside` holds while the name is still to be decided. -/
def onScriptNest (l : Lexer) (inside : Bool) (c : Char) : Lexer × List Item :=
  if isTagSpace c || c == '/' || c == '>' then
    let nested := if l.buffer == "script" then !inside else inside
    (l.goTo (.raw (commentKind nested)), [.chars c.toString])
  else if c.isAlpha then ({ l with buffer := l.buffer.push c.toLower }, [.chars c.toString])
  else (l.leave (.raw (commentKind inside)) c, [])

end Pagewalk.Markup.Lexer
