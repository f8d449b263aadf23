import Pagewalk.Document.Element

/-!
# Written markup

A tree is written back as markup. Text and attribute values are escaped; text right inside the elements of
`rawElements` is written as it is, and an element of `voidElements` has neither content nor an end tag.
-/

namespace Pagewalk

open Markup

/-- The elements whose text is not escaped. -/
def rawElements : List String := ["style", "script", "xmp", "iframe", "noembed", "noframes", "plaintext"]

/-- The elements without content and without an end tag. -/
def voidElements : List String :=
  ["area", "base", "basefont", "bgsound", "br", "col", "embed", "frame", "hr", "img", "input", "keygen", "link",
    "meta", "param", "source", "track", "wbr"]

/-- A character of text, escaped. -/
def escapeInText (c : Char) : String :=
  if c == '&' then "&amp;"
  else if c == '\u00a0' then "&nbsp;"
  else if c == '<' then "&lt;"
  else if c == '>' then "&gt;"
  else c.toString

/-- A character of an attribute value, escaped. -/
def escapeInValue (c : Char) : String :=
  if c == '&' then "&amp;"
  else if c == '\u00a0' then "&nbsp;"
  else if c == '"' then "&quot;"
  else c.toString

/-- A text with each character escaped, after what was written before. -/
def writeEscaped (escape : Char → String) (acc s : String) : String := s.foldl (fun acc c => acc ++ escape c) acc

/-- The name of an attribute with its qualifier. -/
def writtenName (n : AttributeName) : String :=
  match n.space with
  | .xml => "xml:" ++ n.name
  | .xmlns => if n.name == "xmlns" then n.name else "xmlns:" ++ n.name
  | .xlink => "xlink:" ++ n.name
  | _ => n.name

/-- The start tag of an element, after what was written before. -/
def ElementData.writeTag (acc : String) (d : ElementData) : String :=
  (d.attributes.foldl
    (fun acc a => writeEscaped escapeInValue (acc ++ " " ++ writtenName a.name ++ "=\"") a.value ++ "\"")
    (acc ++ "<" ++ d.name.name)) ++ ">"

mutual

/-- A node written after what was written before; `raw` says that its parent does not escape text. -/
def Node.write (raw : Bool) (acc : String) : Node → String
  | .element data kids =>
    let acc := data.writeTag acc
    if data.name.isHtmlIn voidElements then acc
    else Node.writeAll (data.name.isHtmlIn rawElements) acc kids ++ "</" ++ data.name.name ++ ">"
  | .fragment kids => Node.writeAll raw acc kids
  | .text s => if raw then acc ++ s else writeEscaped escapeInText acc s
  | .comment s => acc ++ "<!--" ++ s ++ "-->"

/-- Siblings written one after another. -/
def Node.writeAll (raw : Bool) (acc : String) : List Node → String
  | [] => acc
  | n :: ns => Node.writeAll raw (Node.write raw acc n) ns

end

/-- The element as markup. -/
def Element.outerMarkup (e : Element) : String := e.node.write false ""

/-- What stands inside the element as markup; text right inside it is escaped whatever the element is. -/
def Element.innerMarkup (e : Element) : String := Node.writeAll false "" e.kids

end Pagewalk
