import Pagewalk.Decimal.Written
import Pagewalk.Text.Quoted

/-!
# Tokens of selectors

The tokens are those of style sheets. `label` is the short text of a token in a fault, which some tokens lack, and
`described` names the token and its content over several lines.
-/

namespace Pagewalk.Selector

open Text

/-- A number of a selector. -/
structure Numeral where
  /-- It begins with a plus or a minus sign. -/
  hasSign : Bool
  value : Float32
  /-- Its value if it has neither a point nor an exponent, kept within 32 bits. -/
  whole? : Option Int
  deriving Repr

/-- A token. Names and texts have their escapes resolved. -/
inductive Token where
  | ident (name : String)
  | atKeyword (name : String)
  /-- A `#` with a name that cannot be an identifier. -/
  | hash (name : String)
  | idHash (name : String)
  | quoted (s : String)
  | url (s : String)
  | delim (c : Char)
  | number (n : Numeral)
  | percentage (n : Numeral)
  | dimension (n : Numeral) (unit : String)
  | blank (s : String)
  | colon
  | semicolon
  | comma
  | includes
  | dashMatch
  | startsWith
  | endsWith
  | substring
  | commentOpen
  | commentClose
  | function (name : String)
  | parenthesis
  | bracket
  | brace
  | badUrl (s : String)
  | badString (s : String)
  | closeParenthesis
  | closeBracket
  | closeBrace
  deriving Repr

namespace Token

/-- The short text of a number; a number with a sign that is not positive gets a second minus. -/
def numeralLabel (n : Numeral) : String :=
  let s := (Decimal.Parts.ofFloat32 n.value).plain
  if n.hasSign then (if n.value > 0 then "+" ++ s else "-" ++ s) else s

/-- The short text of a token; a single delimiter and a bare address have none. -/
def label? : Token → Option String
  | ident name => some name
  | atKeyword name => some ("@" ++ name)
  | hash name => some ("#" ++ name)
  | idHash name => some ("#" ++ name)
  | quoted s => some ("\"" ++ s ++ "\"")
  | url _ => none
  | delim _ => none
  | number n => some (numeralLabel n)
  | percentage n => some (numeralLabel n ++ "%")
  | dimension n unit => some (numeralLabel n ++ unit)
  | blank _ => some " "
  | colon => some ":"
  | semicolon => some ";"
  | comma => some ","
  | includes => some "~="
  | dashMatch => some "|="
  | startsWith => some "^="
  | endsWith => some "$="
  | substring => some "*="
  | commentOpen => some "<!--"
  | commentClose => some "-->"
  | function name => some (name ++ "()")
  | parenthesis => some "<("
  | bracket => some "<["
  | brace => some "<\x7b"
  | badUrl s => some ("<Bad URL " ++ quote s ++ ">")
  | badString s => some ("<Bad String " ++ quote s ++ ">")
  | closeParenthesis => some "<)"
  | closeBracket => some "<]"
  | closeBrace => some "<\x7d"

/-- A name with its content in round brackets on lines of their own. -/
def wrap (indent name content : String) : String :=
  name ++ "(\n" ++ indent ++ "    " ++ content ++ ",\n" ++ indent ++ ")"

/-- A character in single quotes. -/
def quoteChar (c : Char) : String :=
  if c == '\'' then "'\\''" else if c == '"' then "'\"'" else "'" ++ String.ofList (escapeChar c) ++ "'"

/-- The fields of a number on lines of their own. -/
def describedNumeral (indent name valueName : String) (n : Numeral) (more : List (String × String)) : String :=
  let inner := indent ++ "    "
  let whole := match n.whole? with
    | none => "None"
    | some i => wrap inner "Some" (toString i)
  let rows := [("has_sign", toString n.hasSign), (valueName, (Decimal.Parts.ofFloat32 n.value).pointed),
    ("int_value", whole)] ++ more
  name ++ " \x7b\n" ++ String.join (rows.map fun (k, v) => inner ++ k ++ ": " ++ v ++ ",\n") ++ indent ++ "\x7d"

/-- A token by name, over several lines that follow the indented first. -/
def described (indent : String) : Token → String
  | ident name => wrap indent "Ident" (quote name)
  | atKeyword name => wrap indent "AtKeyword" (quote name)
  | hash name => wrap indent "Hash" (quote name)
  | idHash name => wrap indent "IDHash" (quote name)
  | quoted s => wrap indent "QuotedString" (quote s)
  | url s => wrap indent "UnquotedUrl" (quote s)
  | delim c => wrap indent "Delim" (quoteChar c)
  | number n => describedNumeral indent "Number" "value" n []
  | percentage n => describedNumeral indent "Percentage" "unit_value" n []
  | dimension n unit => describedNumeral indent "Dimension" "value" n [("unit", quote unit)]
  | blank s => wrap indent "WhiteSpace" (quote s)
  | colon => "Colon"
  | semicolon => "Semicolon"
  | comma => "Comma"
  | includes => "IncludeMatch"
  | dashMatch => "DashMatch"
  | startsWith => "PrefixMatch"
  | endsWith => "SuffixMatch"
  | substring => "SubstringMatch"
  | commentOpen => "CDO"
  | commentClose => "CDC"
  | function name => wrap indent "Function" (quote name)
  | parenthesis => "ParenthesisBlock"
  | bracket => "SquareBracketBlock"
  | brace => "CurlyBracketBlock"
  | badUrl s => wrap indent "BadUrl" (quote s)
  | badString s => wrap indent "BadString" (quote s)
  | closeParenthesis => "CloseParenthesis"
  | closeBracket => "CloseSquareBracket"
  | closeBrace => "CloseCurlyBracket"

end Token

end Pagewalk.Selector
