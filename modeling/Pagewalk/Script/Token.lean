import Pagewalk.Decimal.Written
import Pagewalk.Script.Literal
import Pagewalk.Script.NameTable

/-!
# Tokens of script

A script is cut into tokens one at a time, blanks and comments left out. Each token knows where it begins and ends
and where the first line end before it stands. Whether code is strict decides which literals there are, so a token
is cut only when the reading has come to it.
-/

namespace Pagewalk.Script

open Text

/-- A token. -/
inductive Token where
  | name (s : String)
  /-- A name after a number sign. -/
  | hidden (s : String)
  | number (x : Float)
  | text (s : CodeUnits)
  | mark (s : String)
  | finish
  deriving Inhabited, Repr

/-- A place in a script: line and column, both from 1. -/
structure Place where
  line : Nat
  column : Nat
  deriving DecidableEq, Inhabited, Repr

/-- A token with its places. -/
structure Lexeme where
  token : Token
  start : Place
  stop : Place
  /-- Where a line ended before the token, if one did. -/
  lineEnd : Option Place
  deriving Inhabited, Repr

namespace Token

/-- The token as it is quoted in a fault. -/
def shown : Token → String
  | name s => s
  | hidden s => "#" ++ s
  | number x => Decimal.plain x
  | text s => s.toText
  | mark s => s
  | finish => "end of file"

/-- The token is this mark. -/
def isMark (t : Token) (s : String) : Bool :=
  match t with
  | mark m => m == s
  | _ => false

/-- The token is this word. -/
def isWord (t : Token) (s : String) : Bool :=
  match t with
  | name n => n == s
  | _ => false

end Token

/-! ### Places -/

/-- A blank between tokens that does not end a line. -/
def isTokenBlank (c : Char) : Bool := !isLineEnd c && ((isBlank c && c.toNat != 0x85) || c.toNat == 0xFEFF)

namespace Place

/-- Some columns further. -/
def right (p : Place) (n : Nat) : Place := { p with column := p.column + n }

/-- The start of the next line. -/
def below (p : Place) : Place := ⟨p.line + 1, 1⟩

/-- The place after a character. -/
def after (p : Place) (c : Char) : Place := if isLineEnd c then p.below else p.right 1

/-- How a fault tells the place. -/
def text (p : Place) : String := "at line " ++ toString p.line ++ ", col " ++ toString p.column

/-- The place after a text literal, which is read from behind its opening mark. -/
def afterText (mark : Char) (p : Place) : List Char → Place
  | '\\' :: '\r' :: '\n' :: cs => afterText mark (p.right 1).below cs
  | '\\' :: c :: cs => afterText mark ((p.right 1).after c) cs
  | c :: cs => if c == mark then p.right 1 else afterText mark (p.after c) cs
  | [] => p

/-- The place after so many characters of a text literal. -/
def within (p : Place) : Nat → List Char → Place
  | 0, _ => p
  | n + 1, c :: cs => within (if c == '\r' && cs.head? == some '\n' then p else p.after c) n cs
  | _ + 1, [] => p

end Place

/-! ### Between tokens -/

/-- What is passed over: blanks, the rest of a line, or a comment between stars, of which is known where it began,
whether a line ended in it, and whether a star stands right before. -/
inductive Passing where
  | blanks
  | line
  | opening (start : Place)
  | comment (start : Place) (hasLineEnd afterStar : Bool)

/-- Passes over what stands before a token; tells the first line end that is met. A comment over several lines
counts as one where it begins. -/
def pass (m : Passing) (p : Place) (lineEnd : Option Place) : List Char →
    Except String (Place × Option Place × List Char)
  | [] =>
    match m with
    | .opening start => .error ("unterminated multiline comment " ++ start.text)
    | .comment start .. => .error ("unterminated multiline comment " ++ start.text)
    | _ => .ok (p, lineEnd, [])
  | c :: cs =>
    let isHalfEnd := c == '\r' && cs.head? == some '\n'
    match m with
    | .opening start => pass (.comment start false false) (p.right 1) lineEnd cs
    | .comment start hasLineEnd afterStar =>
      if c == '/' && afterStar then
        pass .blanks (p.right 1) (if hasLineEnd then lineEnd <|> some start else lineEnd) cs
      else
        pass (.comment start (hasLineEnd || isLineEnd c) (c == '*')) (if isHalfEnd then p else p.after c) lineEnd cs
    | .line =>
      if isLineEnd c then pass .blanks (if isHalfEnd then p else p.below) (lineEnd <|> some p) cs
      else pass .line (p.right 1) lineEnd cs
    | .blanks =>
      if isLineEnd c then pass .blanks (if isHalfEnd then p else p.below) (lineEnd <|> some p) cs
      else if isTokenBlank c then pass .blanks (p.right 1) lineEnd cs
      else if c == '/' && cs.head? == some '/' then pass .line (p.right 1) lineEnd cs
      else if c == '/' && cs.head? == some '*' then pass (.opening p) (p.right 1) lineEnd cs
      else .ok (p, lineEnd, c :: cs)

/-! ### Single tokens -/

/-- The marks, longer ones before those that they begin with. -/
def marks : List (List Char) :=
  [">>>=", "...", "===", "!==", "**=", "<<=", ">>=", ">>>", "&&=", "||=", "??=", "=>", "==", "!=", "<=", ">=", "&&",
    "||", "??", "?.", "++", "--", "+=", "-=", "*=", "/=", "%=", "&=", "|=", "^=", "<<", ">>", "**", "\x7b", "\x7d", "(",
    ")", "[", "]", ";", ",", "<", ">", "+", "-", "*", "/", "%", "&", "|", "^", "!", "~", "?", ":", "=", "."].map
    String.toList

/-- The marks that could go on with a further character, so that a script cannot end right behind them. -/
def openMarks : List (List Char) :=
  ["+", "-", "*", "**", "%", "|", "||", "&", "&&", "^", "=", "<", "<<", ">", ">>", ">>>", "!", "??"].map String.toList

/-- A token with the place after it and the characters that follow, or the text of a fault. -/
abbrev Cut := Except String (Token × Place × List Char)

/-- The text of a fault at a place. -/
def faultAt {α : Type} (message : String) (p : Place) : Except String α := .error (message ++ " " ++ p.text)

/-- The characters that a number may take, and one after them. -/
def numberChars (prev : Char) : List Char → List Char
  | [] => []
  | c :: cs =>
    if c.isAlphanum || c == '_' || c == '.' || c == '$' then c :: numberChars c cs
    else if (c == '+' || c == '-') && (prev == 'e' || prev == 'E') then c :: numberChars c cs
    else [c]

/-- Cuts a number. -/
def cutNumber (isStrict : Bool) (p : Place) (cs : List Char) : Cut :=
  let taken := numberChars ' ' cs
  let upTo (rest : List Char) : Nat := taken.length - rest.length
  match Literal.number isStrict taken with
  | .ok (x, rest) => .ok (.number x, p.right (upTo rest), cs.drop (upTo rest))
  | .error (e, rest) => faultAt e.message (p.right (upTo rest))

/-- Cuts a text literal. -/
def cutText (isStrict : Bool) (p : Place) (mark : Char) (cs : List Char) : Cut :=
  match Literal.readUnits isStrict mark cs #[] with
  | .ok (u, rest) => .ok (.text u, .afterText mark (p.right 1) cs, rest)
  | .error (e, rest) =>
    if e.hasPlace then faultAt e.message (.within (p.right 1) (cs.length - rest.length) cs) else .error e.message

/-- The fault of a character with which no token begins. -/
def strayCharacter (c : Char) (p : Place) : Cut :=
  faultAt ("unexpected '" ++ c.toString ++ "' at line " ++ toString p.line ++ ", column " ++ toString p.column) p

/-- Cuts a mark. -/
def cutMark (p : Place) (c : Char) (cs : List Char) : Cut :=
  match marks.find? (·.isPrefixOf (c :: cs)) with
  | none => strayCharacter c p
  | some m =>
    let rest := (c :: cs).drop m.length
    if rest.isEmpty && openMarks.contains m then
      faultAt "abrupt end - could not preview next value as part of the operator" (p.right m.length)
    else if rest.isEmpty && m == ['/'] then faultAt "Abrupt end: Expecting Token /,*,= or regex" p
    else if m == ['.'] && rest.head? == some '.' then faultAt "Expecting Token '.' as part of spread" (p.right 2)
    else .ok (.mark (String.ofList m), p.right m.length, rest)

/-- Cuts a name. -/
def cutName (p : Place) (cs : List Char) : Cut :=
  let s := cs.takeWhile isNamePart
  .ok (.name (String.ofList s), p.right s.length, cs.dropWhile isNamePart)

/-- Cuts the name after a number sign. -/
def cutHidden (p : Place) (cs : List Char) : Cut :=
  if cs.head?.any isNameStart then
    let s := cs.takeWhile isNamePart
    .ok (.hidden (String.ofList s), p.right (s.length + 1), cs.dropWhile isNamePart)
  else faultAt "Abrupt end: Expecting private identifier" p

/-- Cuts the token that begins with the first of some characters. -/
def cut (isStrict : Bool) (p : Place) : List Char → Cut
  | [] => .ok (.finish, p, [])
  | c :: cs =>
    if isNameStart c then cutName p (c :: cs)
    else if c == '"' || c == '\'' then cutText isStrict p c cs
    else if c.isDigit || (c == '.' && cs.head?.any Char.isDigit) then cutNumber isStrict p (c :: cs)
    else if c == '#' then cutHidden p cs
    else cutMark p c cs

/-- What of a script is still to be cut, and where it begins. -/
structure Uncut where
  chars : List Char
  place : Place
  deriving Inhabited

/-- A script before anything of it is cut; a first line that begins with a number sign and an exclamation mark is
passed over. -/
def Uncut.start : List Char → Uncut
  | '#' :: '!' :: cs => ⟨cs.dropWhile (!isLineEnd ·), ⟨1, 3 + (cs.takeWhile (!isLineEnd ·)).length⟩⟩
  | cs => ⟨cs, ⟨1, 1⟩⟩

/-- Cuts the next token. -/
def Uncut.next (u : Uncut) (isStrict : Bool) : Except String (Lexeme × Uncut) := do
  let (p, lineEnd, cs) ← pass .blanks u.place none u.chars
  let (t, stop, rest) ← cut isStrict p cs
  return (⟨t, p, stop, lineEnd⟩, ⟨rest, stop⟩)

end Pagewalk.Script
