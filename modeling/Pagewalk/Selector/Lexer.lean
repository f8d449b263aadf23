import Pagewalk.Decimal.Reading
import Pagewalk.Selector.Token
import Pagewalk.Text.Utf8

/-!
# Reading tokens

A selector is cut into tokens from left to right. Comments give no token; a text or an address that is still open
at the end is closed there.
-/

namespace Pagewalk.Selector

open Text

/-- A character that ends a line. -/
def isLineEnd (c : Char) : Bool := c == '\n' || c == '\r' || c == '\x0c'

/-- A character that a name can begin with, escapes apart. -/
def isNameStart (c : Char) : Bool := c.isAlpha || c == '_' || c == '\x00' || c.toNat ≥ 0x80

/-- A character that a name can hold, escapes apart. -/
def isNamePart (c : Char) : Bool := isNameStart c || c.isDigit || c == '-'

/-- A hexadecimal digit. -/
def isHexDigit (c : Char) : Bool := c.isDigit || ('a' ≤ c && c ≤ 'f') || ('A' ≤ c && c ≤ 'F')

/-- The value of a hexadecimal digit. -/
def hexDigitValue (c : Char) : Nat :=
  if c.isDigit then c.toNat - '0'.toNat else c.toLower.toNat - 'a'.toNat + 10

/-- The character of a code point that an escape gives. -/
def escapedChar (n : Nat) : Char :=
  if n = 0 ∨ n > 0x10FFFF ∨ (0xD800 ≤ n ∧ n ≤ 0xDFFF) then Utf8.replacement else Char.ofNat n

/-- Leaves out one blank. -/
def skipOneBlank : List Char → List Char
  | '\r' :: '\n' :: cs => cs
  | c :: cs => if isSpace c then cs else c :: cs
  | [] => []

/-- The character that an escape stands for, its backslash being left out, and the rest. -/
def escape (cs : List Char) : Char × List Char :=
  match cs with
  | [] => (Utf8.replacement, [])
  | c :: rest =>
    if isHexDigit c then
      let ds := (cs.take 6).takeWhile isHexDigit
      (escapedChar (ds.foldl (fun n d => n * 16 + hexDigitValue d) 0), skipOneBlank (cs.drop ds.length))
    else if c == '\x00' then (Utf8.replacement, rest)
    else (c, rest)

/-- The text begins with a backslash that can begin an escape. -/
def startsEscape : List Char → Bool
  | '\\' :: c :: _ => !isLineEnd c
  | '\\' :: [] => true
  | _ => false

/-- The text begins with an identifier. -/
def startsIdent (cs : List Char) : Bool :=
  match cs with
  | '-' :: '-' :: _ => true
  | '-' :: c :: cs => isNameStart c || startsEscape (c :: cs)
  | c :: _ => isNameStart c || startsEscape cs
  | [] => false

/-- The text begins with a number. -/
def startsNumber (cs : List Char) : Bool :=
  let cs := match cs with
    | '+' :: cs => cs
    | '-' :: cs => cs
    | cs => cs
  match cs with
  | '.' :: d :: _ => d.isDigit
  | d :: _ => d.isDigit
  | [] => false

/-- Reads a name, last character first in `acc`. Each round takes a character. -/
def nameFrom : Nat → List Char → List Char → List Char × List Char
  | 0, acc, cs => (acc.reverse, cs)
  | _ + 1, acc, [] => (acc.reverse, [])
  | fuel + 1, acc, c :: cs =>
    if c == '\x00' then nameFrom fuel (Utf8.replacement :: acc) cs
    else if isNamePart c then nameFrom fuel (c :: acc) cs
    else if startsEscape (c :: cs) then
      let (e, cs) := escape cs
      nameFrom fuel (e :: acc) cs
    else (acc.reverse, c :: cs)

/-- The name at the start of a text, and the rest. -/
def name (cs : List Char) : String × List Char :=
  let (n, rest) := nameFrom cs.length [] cs
  (String.ofList n, rest)

/-- Reads the inside of a quoted text: whether it is broken off by the end of a line, its characters, the rest. -/
def quotedFrom (quote : Char) : Nat → List Char → List Char → Bool × List Char × List Char
  | 0, acc, cs => (false, acc.reverse, cs)
  | _ + 1, acc, [] => (false, acc.reverse, [])
  | fuel + 1, acc, c :: cs =>
    if c == quote then (false, acc.reverse, cs)
    else if isLineEnd c then (true, acc.reverse, c :: cs)
    else if c == '\x00' then quotedFrom quote fuel (Utf8.replacement :: acc) cs
    else if c == '\\' then
      match cs with
      | [] => (false, acc.reverse, [])
      | '\r' :: '\n' :: cs => quotedFrom quote fuel acc cs
      | d :: rest =>
        if isLineEnd d then quotedFrom quote fuel acc rest
        else
          let (e, cs) := escape cs
          quotedFrom quote fuel (e :: acc) cs
    else quotedFrom quote fuel (c :: acc) cs

/-- The token of a quoted text, its opening quote being left out, and the rest. -/
def quotedToken (quote : Char) (cs : List Char) : Token × List Char :=
  let (broken, s, rest) := quotedFrom quote (cs.length + 1) [] cs
  (if broken then .badString (String.ofList s) else .quoted (String.ofList s), rest)

/-- Skips to behind the bracket that ends a broken address. -/
def afterBadUrl : List Char → List Char
  | [] => []
  | '\\' :: _ :: cs => afterBadUrl cs
  | ')' :: cs => cs
  | _ :: cs => afterBadUrl cs

/-- A character that breaks a bare address. -/
def breaksUrl (c : Char) : Bool :=
  c == '"' || c == '\'' || c == '(' || (1 ≤ c.toNat && c.toNat ≤ 8) || c == '\x0b' ||
    (0x0E ≤ c.toNat && c.toNat ≤ 0x1F) || c == '\x7f'

/-- Reads a bare address; `none` for a broken one. -/
def urlFrom : Nat → List Char → List Char → Option (List Char) × List Char
  | 0, acc, cs => (some acc.reverse, cs)
  | _ + 1, acc, [] => (some acc.reverse, [])
  | fuel + 1, acc, c :: cs =>
    if c == ')' then (some acc.reverse, cs)
    else if isSpace c then
      match cs.dropWhile isSpace with
      | [] => (some acc.reverse, [])
      | ')' :: rest => (some acc.reverse, rest)
      | rest => (none, afterBadUrl rest)
    else if c == '\x00' then urlFrom fuel (Utf8.replacement :: acc) cs
    else if c == '\\' then
      if startsEscape (c :: cs) then
        let (e, cs) := escape cs
        urlFrom fuel (e :: acc) cs
      else (none, afterBadUrl cs)
    else if breaksUrl c then (none, afterBadUrl cs)
    else urlFrom fuel (c :: acc) cs

/-- The token that begins with a name, and the rest. -/
def namedToken (cs : List Char) : Token × List Char :=
  match name cs with
  | (n, '(' :: rest) =>
    if lower n == "url" then
      match rest.dropWhile isSpace with
      | '"' :: _ => (.function n, rest)
      | '\'' :: _ => (.function n, rest)
      | inside =>
        match urlFrom (inside.length + 1) [] inside with
        | (some s, rest) => (.url (String.ofList s), rest)
        | (none, rest) =>
          (.badUrl (String.ofList (inside.take (inside.length - rest.length))), rest)
    else (.function n, rest)
  | (n, rest) => (.ident n, rest)

/-- A whole number kept within 32 bits. -/
def saturate (i : Int) : Int := min 2147483647 (max (-2147483648) i)

/-- The token that begins with a number, and the rest. -/
def numericToken (cs : List Char) : Token × List Char :=
  let (negative, digits) := Decimal.sign cs
  let hasSign := match cs with
    | '+' :: _ => true
    | '-' :: _ => true
    | _ => false
  let (whole, rest) := digits.span Char.isDigit
  let (fraction, rest) := match rest with
    | '.' :: d :: more => if d.isDigit then (d :: more).span Char.isDigit else ([], rest)
    | rest => ([], rest)
  let (e, after) := Decimal.exponent? rest
  let isWhole := fraction.isEmpty && after.length == rest.length
  let x := Decimal.ofParts whole fraction e
  let x := if negative then -x else x
  let i : Int := Decimal.digitsValue whole
  let numeral : Float → Numeral := fun x =>
    ⟨hasSign, x.toFloat32, if isWhole then some (saturate (if negative then -i else i)) else none⟩
  match after with
  | '%' :: rest => (.percentage (numeral (x / 100)), rest)
  | rest =>
    if startsIdent rest then
      let (unit, rest) := name rest
      (.dimension (numeral x) unit, rest)
    else (.number (numeral x), rest)

/-- The rest after a comment, its opening being left out. -/
def afterComment : List Char → List Char
  | '*' :: '/' :: cs => cs
  | _ :: cs => afterComment cs
  | [] => []

/-- The token at the start of a text that is not empty, if it is no comment, and the rest. -/
def token (c : Char) (cs : List Char) : Option Token × List Char :=
  let one := fun (t : Token) => (some t, cs)
  let all := c :: cs
  let named := fun (_ : Unit) => let (t, rest) := namedToken all; (some t, rest)
  let numeric := fun (_ : Unit) => let (t, rest) := numericToken all; (some t, rest)
  if isSpace c then (some (.blank (String.ofList (all.takeWhile isSpace))), all.dropWhile isSpace)
  else if c == '"' || c == '\'' then let (t, rest) := quotedToken c cs; (some t, rest)
  else if c == '#' then
    if startsIdent cs then let (n, rest) := name cs; (some (.idHash n), rest)
    else if (cs.head?.map fun d => d.isDigit || d == '-').getD false then
      let (n, rest) := name cs
      (some (.hash n), rest)
    else one (.delim c)
  else if c == '(' then one .parenthesis
  else if c == ')' then one .closeParenthesis
  else if c == '[' then one .bracket
  else if c == ']' then one .closeBracket
  else if c == '\x7b' then one .brace
  else if c == '\x7d' then one .closeBrace
  else if c == ',' then one .comma
  else if c == ':' then one .colon
  else if c == ';' then one .semicolon
  else if startsNumber all then numeric ()
  else
    match all with
    | '$' :: '=' :: rest => (some .endsWith, rest)
    | '*' :: '=' :: rest => (some .substring, rest)
    | '^' :: '=' :: rest => (some .startsWith, rest)
    | '|' :: '=' :: rest => (some .dashMatch, rest)
    | '~' :: '=' :: rest => (some .includes, rest)
    | '-' :: '-' :: '>' :: rest => (some .commentClose, rest)
    | '<' :: '!' :: '-' :: '-' :: rest => (some .commentOpen, rest)
    | '/' :: '*' :: rest => (none, afterComment rest)
    | '@' :: rest =>
      if startsIdent rest then let (n, rest) := name rest; (some (.atKeyword n), rest) else one (.delim c)
    | _ => if startsIdent all then named () else one (.delim c)

/-- Reads all tokens, after those read before, last first. Each round takes a character. -/
def tokensFrom : Nat → List Token → List Char → List Token
  | 0, acc, _ => acc.reverse
  | _ + 1, acc, [] => acc.reverse
  | fuel + 1, acc, c :: cs =>
    match token c cs with
    | (some t, rest) => tokensFrom fuel (t :: acc) rest
    | (none, rest) => tokensFrom fuel acc rest

/-- The tokens of a text. -/
def tokens (s : String) : List Token := tokensFrom s.length [] s.toList

/-- A token alone, or a token that opens a block with what the block holds. -/
inductive Part where
  | token (t : Token)
  | block (opening : Token) (parts : List Part)
  deriving Repr

/-- The token that closes what a token opens is this one. -/
def closes (opening closing : Token) : Bool :=
  match opening, closing with
  | .function _, .closeParenthesis => true
  | .parenthesis, .closeParenthesis => true
  | .bracket, .closeBracket => true
  | .brace, .closeBrace => true
  | _, _ => false

/-- A token opens a block. -/
def opens : Token → Bool
  | .function _ => true
  | .parenthesis => true
  | .bracket => true
  | .brace => true
  | _ => false

/-- Parts in the making: the open blocks, innermost first, each with its opening token and what stood before it, and
the parts read in the innermost, last first. -/
structure Nesting where
  above : List (Token × List Part)
  parts : List Part

/-- Closes the innermost block. -/
def Nesting.close (n : Nesting) : Nesting :=
  match n.above with
  | [] => n
  | (opening, before) :: above => ⟨above, .block opening n.parts.reverse :: before⟩

/-- Takes a token. -/
def Nesting.take (n : Nesting) (t : Token) : Nesting :=
  if opens t then ⟨(t, n.parts) :: n.above, []⟩
  else
    match n.above with
    | (opening, _) :: _ => if closes opening t then n.close else { n with parts := .token t :: n.parts }
    | [] => { n with parts := .token t :: n.parts }

/-- Closes all blocks. -/
def Nesting.closeAll : Nat → Nesting → Nesting
  | 0, n => n
  | fuel + 1, n => closeAll fuel n.close

/-- The parts of a text; blocks still open at the end are closed there. -/
def parts (s : String) : List Part :=
  let n := (tokens s).foldl Nesting.take ⟨[], []⟩
  (n.closeAll n.above.length).parts.reverse

end Pagewalk.Selector
