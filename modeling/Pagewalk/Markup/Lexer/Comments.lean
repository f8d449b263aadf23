import Pagewalk.Markup.Lexer

/-!
# Inside comments, document types and character data

The states from `<!` on, as far as they look at one character.
-/

namespace Pagewalk.Markup.Lexer

/-! ### Comments -/

/-- A NUL character in a comment, after text that is now part of it. -/
def nulInComment (l : Lexer) (before : String) : Lexer × List Item :=
  ((l.addComment (before.push substitute)).goTo .comment, [.fault .badCharacter])

/-- At the start of a comment. -/
def onCommentStart (l : Lexer) (c : Char) : Lexer × List Item :=
  if c == '-' then (l.goTo .commentStartDash, [])
  else if c == '\x00' then l.nulInComment ""
  else if c == '>' then
    let (l, items) := l.giveComment
    (l, .fault .badCharacter :: items)
  else ((l.addComment c.toString).goTo .comment, [])

/-- After a dash at the start of a comment. -/
def onCommentStartDash (l : Lexer) (c : Char) : Lexer × List Item :=
  if c == '-' then (l.goTo .commentEnd, [])
  else if c == '\x00' then l.nulInComment "-"
  else if c == '>' then
    let (l, items) := l.giveComment
    (l, .fault .badCharacter :: items)
  else ((l.addComment ("-".push c)).goTo .comment, [])

/-- In a comment. -/
def onComment (l : Lexer) (c : Char) : Lexer × List Item :=
  if c == '<' then ((l.addComment "<").goTo .commentLess, [])
  else if c == '-' then (l.goTo .commentEndDash, [])
  else if c == '\x00' then l.nulInComment ""
  else ({ l with comment := l.comment.push c }, [])

/-- After a less-than sign in a comment. -/
def onCommentLess (l : Lexer) (c : Char) : Lexer × List Item :=
  if c == '!' then ((l.addComment "!").goTo .commentLessBang, [])
  else if c == '<' then (l.addComment "<", [])
  else (l.leave .comment c, [])

/-- After a dash that may end a comment. -/
def onCommentEndDash (l : Lexer) (c : Char) : Lexer × List Item :=
  if c == '-' then (l.goTo .commentEnd, [])
  else if c == '\x00' then l.nulInComment "-"
  else ((l.addComment ("-".push c)).goTo .comment, [])

/-- After two dashes that may end a comment. -/
def onCommentEnd (l : Lexer) (c : Char) : Lexer × List Item :=
  if c == '>' then l.giveComment
  else if c == '!' then (l.goTo .commentEndBang, [])
  else if c == '-' then (l.addComment "-", [])
  else ((l.addComment "--").leave .comment c, [])

/-- After two dashes and an exclamation mark that may end a comment. -/
def onCommentEndBang (l : Lexer) (c : Char) : Lexer × List Item :=
  if c == '-' then ((l.addComment "--!").goTo .commentEndDash, [])
  else if c == '>' then
    let (l, items) := l.giveComment
    (l, .fault .badCharacter :: items)
  else if c == '\x00' then l.nulInComment "--!"
  else ((l.addComment ("--!".push c)).goTo .comment, [])

/-- In a comment that is none by its opening. -/
def onBogusComment (l : Lexer) (c : Char) : Lexer × List Item :=
  if c == '>' then l.giveComment
  else ({ l with comment := l.comment.push (if c == '\x00' then substitute else c) }, [])

/-! ### Document types -/

/-- A greater-than sign that ends a document type too early. -/
def cutDoctype (l : Lexer) : Lexer × List Item :=
  let (l, items) := l.spoilDoctype.giveDoctype
  (l, .fault .badCharacter :: items)

/-- A character that has no place in a document type. -/
def badDoctype (l : Lexer) : Lexer × List Item :=
  (l.spoilDoctype.goTo .bogusDoctype, [.fault .badCharacter])

/-- After the keyword of a document type. -/
def onDoctype (l : Lexer) (c : Char) : Lexer × List Item :=
  if isTagSpace c then (l.goTo .beforeDoctypeName, [])
  else if c == '>' then (l.leave .beforeDoctypeName c, [])
  else (l.leave .beforeDoctypeName c, [.fault .badCharacter])

/-- Before the name of a document type. -/
def onBeforeDoctypeName (l : Lexer) (c : Char) : Lexer × List Item :=
  if isTagSpace c then (l, [])
  else if c == '\x00' then ((l.addDoctypeName substitute).goTo .doctypeName, [.fault .badCharacter])
  else if c == '>' then l.cutDoctype
  else ((l.addDoctypeName c.toLower).goTo .doctypeName, [])

/-- In the name of a document type. -/
def onDoctypeName (l : Lexer) (c : Char) : Lexer × List Item :=
  if isTagSpace c then (l.goTo .afterDoctypeName, [])
  else if c == '>' then l.giveDoctype
  else if c == '\x00' then (l.addDoctypeName substitute, [.fault .badCharacter])
  else (l.addDoctypeName c.toLower, [])

/-- After the name of a document type, where no keyword stands. -/
def onAfterDoctypeName (l : Lexer) (c : Char) : Lexer × List Item :=
  if isTagSpace c then (l, [])
  else if c == '>' then l.giveDoctype
  else l.badDoctype

/-- After a keyword before an identifier. -/
def onAfterDoctypeKeyword (l : Lexer) (id : DoctypeId) (c : Char) : Lexer × List Item :=
  if isTagSpace c then (l.goTo (.beforeDoctypeId id), [])
  else if c == '\"' || c == '\'' then (l.startDoctypeId id c, [.fault .badCharacter])
  else if c == '>' then l.cutDoctype
  else l.badDoctype

/-- Before an identifier. -/
def onBeforeDoctypeId (l : Lexer) (id : DoctypeId) (c : Char) : Lexer × List Item :=
  if isTagSpace c then (l, [])
  else if c == '\"' || c == '\'' then (l.startDoctypeId id c, [])
  else if c == '>' then l.cutDoctype
  else l.badDoctype

/-- In an identifier. -/
def onDoctypeId (l : Lexer) (id : DoctypeId) (quote c : Char) : Lexer × List Item :=
  if c == quote then (l.goTo (.afterDoctypeId id), [])
  else if c == '>' then l.cutDoctype
  else if c == '\x00' then
    (l.mapDoctypeId id fun s => some ((s.getD "").push substitute), [.fault .badCharacter])
  else (l.mapDoctypeId id fun s => some ((s.getD "").push c), [])

/-- After an identifier. -/
def onAfterDoctypeId (l : Lexer) (id : DoctypeId) (c : Char) : Lexer × List Item :=
  match id with
  | .publicId =>
    if isTagSpace c then (l.goTo .betweenDoctypeIds, [])
    else if c == '>' then l.giveDoctype
    else if c == '\"' || c == '\'' then (l.startDoctypeId .systemId c, [.fault .badCharacter])
    else l.badDoctype
  | .systemId =>
    if isTagSpace c then (l, [])
    else if c == '>' then l.giveDoctype
    else (l.goTo .bogusDoctype, [.fault .badCharacter])

/-- Between the two identifiers. -/
def onBetweenDoctypeIds (l : Lexer) (c : Char) : Lexer × List Item :=
  if isTagSpace c then (l, [])
  else if c == '>' then l.giveDoctype
  else if c == '\"' || c == '\'' then (l.startDoctypeId .systemId c, [])
  else l.badDoctype

/-- In the rest of a document type that went wrong. -/
def onBogusDoctype (l : Lexer) (c : Char) : Lexer × List Item :=
  if c == '>' then l.giveDoctype
  else if c == '\x00' then (l, [.fault .badCharacter])
  else (l, [])

/-! ### Character data of foreign content -/

/-- In character data. -/
def onCdata (l : Lexer) (c : Char) : Lexer × List Item :=
  if c == ']' then (l.goTo .cdataBracket, [])
  else if c == '\x00' then ({ l with buffer := "" }, [.chars l.buffer, .null])
  else ({ l with buffer := l.buffer.push c }, [])

/-- After one bracket in character data. -/
def onCdataBracket (l : Lexer) (c : Char) : Lexer × List Item :=
  if c == ']' then (l.goTo .cdataEnd, [])
  else ({ l with buffer := l.buffer.push ']' }.leave .cdata c, [])

/-- After two brackets in character data. -/
def onCdataEnd (l : Lexer) (c : Char) : Lexer × List Item :=
  if c == ']' then ({ l with buffer := l.buffer.push ']' }, [])
  else if c == '>' then ({ l with buffer := "" }.goTo .data, [.chars l.buffer])
  else ({ l with buffer := l.buffer ++ "]]" }.leave .cdata c, [])

end Pagewalk.Markup.Lexer
