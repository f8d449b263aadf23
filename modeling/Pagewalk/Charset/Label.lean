import Pagewalk.Text.Blank
import Pagewalk.Text.Utf8

/-!
# Where a body says what its charset is

A label stands after `charset=`, either in the first 8192 bytes of the body or as a parameter of its media type.
`labelInPage?` answers the label at the first occurrence at which a label that is not empty can be read.
-/

namespace Pagewalk.Charset

open Text

/-- The number of bytes at the start of a body in which a label is looked for. -/
def pageWindow : Nat := 8192

/-- The rest of a text that begins with the given small letters, in any case. -/
def dropLetters? : List Char → List Char → Option (List Char)
  | [], cs => some cs
  | _ :: _, [] => none
  | p :: ps, c :: cs => if c.toLower == p then dropLetters? ps cs else none

/-- A character that ends a label without quotes. -/
def endsLabel (c : Char) : Bool :=
  isBlank c || c == '\"' || c == '\'' || c == ';' || c == '>' || c == '/'

/-- A label that is not empty, as a text. -/
def nonempty? (cs : List Char) : Option String := if cs.isEmpty then none else some (String.ofList cs)

/-- The label at the start of a text: after blanks, the trimmed text up to the same quote, or the text up to a
character that ends a label. -/
def readLabel? (cs : List Char) : Option String :=
  match trimStart cs with
  | [] => none
  | q :: rest =>
    if q == '\"' || q == '\'' then
      match splitOnce q rest with
      | none => none
      | some (inside, _) => nonempty? (trimEnd (trimStart inside))
    else nonempty? ((q :: rest).takeWhile (!endsLabel ·))

/-- The label after a `charset=` that stands at the start of a text. -/
def labelAt? (cs : List Char) : Option String :=
  (dropLetters? "charset=".toList cs).bind readLabel?

/-- The label at the first place of a text where one can be read. -/
def findLabel? : List Char → Option String
  | [] => none
  | c :: cs =>
    match labelAt? (c :: cs) with
    | some label => some label
    | none => findLabel? cs

/-- The label that a page gives in its first bytes. -/
def labelInPage? (body : List UInt8) : Option String :=
  findLabel? ((Utf8.decode (body.take pageWindow)).map (·.getD Utf8.replacement))

/-- The label that a parameter of a media type gives, when the parameter is a charset that is not empty. -/
def labelOfParameter? (part : List Char) : Option String :=
  match splitOnce '=' part with
  | none => none
  | some (name, value) =>
    if sameLetters (trim (String.ofList name)) "charset" then
      nonempty? (trimMatches '\'' (trimMatches '\"' (trim (String.ofList value)))).toList
    else none

/-- The first label among the parameters of a media type. -/
def labelInMediaType? (mediaType : String) : Option String :=
  ((pieces ';' mediaType.toList).drop 1).findSome? labelOfParameter?

end Pagewalk.Charset
