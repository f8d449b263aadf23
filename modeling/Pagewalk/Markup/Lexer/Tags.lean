import Pagewalk.Markup.Lexer

/-!
# Inside a tag

The states from a less-than sign to the greater-than sign that ends a tag, as far as they look at one character.
-/

namespace Pagewalk.Markup.Lexer

/-- A bad character. -/
def bad : List Item := [.fault .badCharacter]

/-- After a less-than sign. -/
def onTagOpen (l : Lexer) (c : Char) : Lexer × List Item :=
  if c == '!' then (l.goTo .declaration, [])
  else if c == '/' then (l.goTo .endTagOpen, [])
  else if c == '?' then ({ l with comment := "" }.leave .bogusComment c, bad)
  else if c.isAlpha then ((l.startTag .opening c.toLower).goTo .tagName, [])
  else (l.leave .data c, bad ++ [.chars "<"])

/-- After a less-than sign and a slash. -/
def onEndTagOpen (l : Lexer) (c : Char) : Lexer × List Item :=
  if c == '>' then (l.goTo .data, bad)
  else if c == '\x00' then ({ l with comment := substitute.toString }.goTo .bogusComment, bad)
  else if c.isAlpha then ((l.startTag .closing c.toLower).goTo .tagName, [])
  else ({ l with comment := "" }.leave .bogusComment c, bad)

/-- In the name of a tag. -/
def onTagName (l : Lexer) (c : Char) : Lexer × List Item :=
  if isTagSpace c then (l.goTo .beforeAttributeName, [])
  else if c == '/' then (l.goTo .selfClosing, [])
  else if c == '>' then l.giveTag
  else if c == '\x00' then ({ l with tagName := l.tagName.push substitute }, bad)
  else ({ l with tagName := l.tagName.push c.toLower }, [])

/-- A character that begins a name where `odd` are bad characters. -/
def beginName (l : Lexer) (odd : List Char) (c : Char) : Lexer × List Item :=
  if c == '\x00' then
    let (l, items) := l.startAttribute substitute
    (l, bad ++ items)
  else
    let faults := if odd.contains c then bad else []
    let (l, items) := l.startAttribute c.toLower
    (l, faults ++ items)

/-- Before the name of an attribute. -/
def onBeforeAttributeName (l : Lexer) (c : Char) : Lexer × List Item :=
  if isTagSpace c then (l, [])
  else if c == '/' then (l.goTo .selfClosing, [])
  else if c == '>' then l.giveTag
  else l.beginName ['\"', '\'', '<', '='] c

/-- In the name of an attribute. -/
def onAttributeName (l : Lexer) (c : Char) : Lexer × List Item :=
  if isTagSpace c then (l.goTo .afterAttributeName, [])
  else if c == '/' then (l.goTo .selfClosing, [])
  else if c == '=' then (l.goTo .beforeAttributeValue, [])
  else if c == '>' then l.giveTag
  else if c == '\x00' then ({ l with attributeName := l.attributeName.push substitute }, bad)
  else
    ({ l with attributeName := l.attributeName.push c.toLower },
      if c == '\"' || c == '\'' || c == '<' then bad else [])

/-- After the name of an attribute and a blank. -/
def onAfterAttributeName (l : Lexer) (c : Char) : Lexer × List Item :=
  if isTagSpace c then (l, [])
  else if c == '/' then (l.goTo .selfClosing, [])
  else if c == '=' then (l.goTo .beforeAttributeValue, [])
  else if c == '>' then l.giveTag
  else l.beginName ['\"', '\'', '<'] c

/-- After the quote that ends the value of an attribute. -/
def onAfterAttributeValue (l : Lexer) (c : Char) : Lexer × List Item :=
  if isTagSpace c then (l.goTo .beforeAttributeName, [])
  else if c == '/' then (l.goTo .selfClosing, [])
  else if c == '>' then l.giveTag
  else (l.leave .beforeAttributeName c, bad)

/-- After a slash in a tag. -/
def onSelfClosing (l : Lexer) (c : Char) : Lexer × List Item :=
  if c == '>' then { l with tagSelfClosing := true }.giveTag
  else (l.leave .beforeAttributeName c, bad)

end Pagewalk.Markup.Lexer
