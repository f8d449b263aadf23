/-!
# Faults of markup

Reading markup never fails, but it notes every fault that it mends. A fault has a fixed text that does not depend
on where it stands.
-/

namespace Pagewalk.Markup

/-- A fault that the reading of markup notes. -/
inductive Fault where
  | badCharacter
  | endOfInput
  | endAfterNumberSign
  | endInNumericReference
  | numericReferenceWithoutDigits
  | numericReferenceWithoutSemicolon
  | invalidNumericReference
  | invalidReference
  | referenceWithoutSemicolon
  | equalsAfterReference
  | duplicateAttribute
  | attributesOnEndTag
  | selfClosingEndTag
  | selfClosingIgnored
  | badDoctype
  | doctypeInBody
  | unexpectedToken
  | unexpectedOpenElement
  | openTagAtBodyEnd
  | bodyEndOutOfScope
  | htmlEndOutOfScope
  | nestedHeadings
  | nestedForms
  | nestedButtons
  | nestedNobr
  | noFormToClose
  | formOutOfScope
  | formNotCurrent
  | noParagraphToClose
  | noItemToClose
  | wrongHeadingClosed
  | noHeadingToClose
  | specialWhileClosing
  | formattingNotOpen
  | formattingOutOfScope
  | formattingNotCurrent
  | tableCharacters
  | tableText
  | cellNotClosed
  deriving DecidableEq, Repr

/-- The text of a fault. -/
def Fault.text : Fault → String
  | badCharacter => "Bad character"
  | endOfInput => "Unexpected EOF"
  | endAfterNumberSign => "EOF after '#' in character reference"
  | endInNumericReference => "EOF in numeric character reference"
  | numericReferenceWithoutDigits => "Numeric character reference without digits"
  | numericReferenceWithoutSemicolon => "Semicolon missing after numeric character reference"
  | invalidNumericReference => "Invalid numeric character reference"
  | invalidReference => "Invalid character reference"
  | referenceWithoutSemicolon => "Character reference does not end with semicolon"
  | equalsAfterReference => "Equals sign after character reference in attribute"
  | duplicateAttribute => "Duplicate attribute"
  | attributesOnEndTag => "Attributes on an end tag"
  | selfClosingEndTag => "Self-closing end tag"
  | selfClosingIgnored => "Unacknowledged self-closing tag"
  | badDoctype => "Bad DOCTYPE"
  | doctypeInBody => "DOCTYPE in body"
  | unexpectedToken => "Unexpected token"
  | unexpectedOpenElement => "Unexpected open element"
  | openTagAtBodyEnd => "Unexpected open tag at end of body"
  | bodyEndOutOfScope => "</body> with no <body> in scope"
  | htmlEndOutOfScope => "</html> with no <body> in scope"
  | nestedHeadings => "nested heading tags"
  | nestedForms => "nested forms"
  | nestedButtons => "nested buttons"
  | nestedNobr => "Nested <nobr>"
  | noFormToClose => "Null form element pointer on </form>"
  | formOutOfScope => "Form element not in scope on </form>"
  | formNotCurrent => "Bad open element on </form>"
  | noParagraphToClose => "No <p> tag to close"
  | noItemToClose => "No matching tag to close"
  | wrongHeadingClosed => "Closing wrong heading tag"
  | noHeadingToClose => "No heading tag to close"
  | specialWhileClosing => "Found special tag while closing generic tag"
  | formattingNotOpen => "Formatting element not open"
  | formattingOutOfScope => "Formatting element not in scope"
  | formattingNotCurrent => "Formatting element not current node"
  | tableCharacters => "Unexpected characters in table"
  | tableText => "Non-space table text"
  | cellNotClosed => "expected to close <td> or <th> with cell"

end Pagewalk.Markup
