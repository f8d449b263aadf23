import Pagewalk.Markup.Builder

/-!
# Foreign content

Drawings and mathematics keep the case of names that have one: tags are read in small letters and are given the
spelling of their vocabulary again. Some attributes are moved into a namespace of their own.
-/

namespace Pagewalk.Markup

/-- The names of drawing elements that hold capitals. -/
def drawingNames : List String :=
  ["altGlyph", "altGlyphDef", "altGlyphItem", "animateColor", "animateMotion", "animateTransform", "clipPath",
    "feBlend", "feColorMatrix", "feComponentTransfer", "feComposite", "feConvolveMatrix", "feDiffuseLighting",
    "feDisplacementMap", "feDistantLight", "feDropShadow", "feFlood", "feFuncA", "feFuncB", "feFuncG", "feFuncR",
    "feGaussianBlur", "feImage", "feMerge", "feMergeNode", "feMorphology", "feOffset", "fePointLight",
    "feSpecularLighting", "feSpotLight", "feTile", "feTurbulence", "foreignObject", "glyphRef", "linearGradient",
    "radialGradient", "textPath"]

/-- The names of drawing attributes that hold capitals. -/
def drawingAttributes : List String :=
  ["attributeName", "attributeType", "baseFrequency", "baseProfile", "calcMode", "clipPathUnits",
    "diffuseConstant", "edgeMode", "filterUnits", "glyphRef", "gradientTransform", "gradientUnits",
    "kernelMatrix", "kernelUnitLength", "keyPoints", "keySplines", "keyTimes", "lengthAdjust",
    "limitingConeAngle", "markerHeight", "markerUnits", "markerWidth", "maskContentUnits", "maskUnits",
    "numOctaves", "pathLength", "patternContentUnits", "patternTransform", "patternUnits", "pointsAtX",
    "pointsAtY", "pointsAtZ", "preserveAlpha", "preserveAspectRatio", "primitiveUnits", "refX", "refY",
    "repeatCount", "repeatDur", "requiredExtensions", "requiredFeatures", "specularConstant", "specularExponent",
    "spreadMethod", "startOffset", "stdDeviation", "stitchTiles", "surfaceScale", "systemLanguage", "tableValues",
    "targetX", "targetY", "textLength", "viewBox", "viewTarget", "xChannelSelector", "yChannelSelector",
    "zoomAndPan"]

/-- The attributes that are moved into a namespace, with their names there. -/
def movedAttributes : List (String × AttributeName) :=
  (["actuate", "arcrole", "href", "role", "show", "title", "type"].map fun n =>
      ("xlink:" ++ n, ⟨.xlink, "xlink", n⟩)) ++
    [("xml:lang", ⟨.xml, "xml", "lang"⟩), ("xml:space", ⟨.xml, "xml", "space"⟩),
      ("xmlns", ⟨.xmlns, "", "xmlns"⟩), ("xmlns:xlink", ⟨.xmlns, "xmlns", "xlink"⟩)]

/-- The spelling in a list whose small letters are those of a name, or the name itself. -/
def respell (spellings : List String) (name : String) : String :=
  (spellings.find? fun s => Text.lower s == name).getD name

/-- A tag with the names of its attributes changed. -/
def Tag.mapNames (t : Tag) (f : AttributeName → AttributeName) : Tag :=
  { t with attributes := t.attributes.map fun a => { a with name := f a.name } }

/-- A tag with the spellings of its vocabulary, and its attributes in their namespaces. -/
def Tag.adjust (space : Space) (t : Tag) : Tag :=
  let spellings := match space with
    | .mathml => ["definitionURL"]
    | .svg => drawingAttributes
    | _ => []
  t.mapNames fun n =>
    let name := respell spellings n.name
    (movedAttributes.lookup name).getD { n with name }

namespace Build

/-- Inserts an element of foreign content. -/
def insertForeign (space : Space) (t : Tag) : Build Answer := do
  if t.selfClosing then
    let _ ← insertElement ⟨space, t.name⟩ t.attributes
    return .heeded
  else
    let _ ← openElement ⟨space, t.name⟩ t.attributes
    return .done

/-- The outermost element of foreign content. -/
def enterForeign (space : Space) (t : Tag) : Build Answer := do
  reconstruct
  insertForeign space (t.adjust space)

/-- An opening tag inside foreign content. -/
def openForeign (t : Tag) : Build Answer := do
  let space := (← currentName).space
  let t := if space == .svg then { t with name := respell drawingNames t.name } else t
  insertForeign space (t.adjust space)

/-- Whether a token is taken by the rules of foreign content, by the name of the innermost open element. -/
def takesForeign (n : ElementName) (tok : Token) : Bool :=
  let isText := match tok with
    | .chars .. | .null => true
    | _ => false
  let opening := match tok with
    | .tag t => if t.kind == .opening then some t.name else none
    | _ => none
  if n.space == .html then false
  else if isMathText n && (isText || opening.any fun name => name != "mglyph" && name != "malignmark") then false
  else if isDrawingHtml n && (isText || opening.isSome) then false
  else if n.space == .mathml && n.name == "annotation-xml" && opening == some "svg" then false
  else true

end Build

end Pagewalk.Markup
