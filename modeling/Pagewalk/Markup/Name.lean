import Pagewalk.Text.Blank

/-!
# Names of elements and attributes

An element name is a namespace and a local name. An attribute of markup has no namespace; inside foreign content
some attributes are moved into one. Two names are equal when namespace, qualifier and local name are.
-/

namespace Pagewalk.Markup

/-- The namespaces that names can be in; `none` is that of ordinary attributes. -/
inductive Space where
  | none
  | html
  | svg
  | mathml
  | xlink
  | xml
  | xmlns
  deriving DecidableEq, Repr, Inhabited

/-- The address of a namespace. -/
def Space.uri : Space → String
  | .none => ""
  | .html => "http://www.w3.org/1999/xhtml"
  | .svg => "http://www.w3.org/2000/svg"
  | .mathml => "http://www.w3.org/1998/Math/MathML"
  | .xlink => "http://www.w3.org/1999/xlink"
  | .xml => "http://www.w3.org/XML/1998/namespace"
  | .xmlns => "http://www.w3.org/2000/xmlns/"

/-- The name of an element. -/
structure ElementName where
  space : Space
  name : String
  deriving DecidableEq, Repr, Inhabited

/-- The name of an attribute. -/
structure AttributeName where
  space : Space
  qualifier : String
  name : String
  deriving DecidableEq, Repr, Inhabited

/-- An attribute name without a namespace. -/
def AttributeName.plain (name : String) : AttributeName := ⟨.none, "", name⟩

/-- An attribute with its value. -/
structure Attribute where
  name : AttributeName
  value : String
  deriving DecidableEq, Repr, Inhabited

/-- The name of an element of ordinary markup. -/
def ElementName.html (name : String) : ElementName := ⟨.html, name⟩

/-- An element name is this one of ordinary markup. -/
def ElementName.isHtml (n : ElementName) (name : String) : Bool := n.space == .html && n.name == name

/-- An element name is one of these of ordinary markup. -/
def ElementName.isHtmlIn (n : ElementName) (names : List String) : Bool :=
  n.space == .html && names.contains n.name

end Pagewalk.Markup
