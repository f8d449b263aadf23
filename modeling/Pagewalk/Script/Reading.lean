import Pagewalk.Script.Token

/-!
# The reading of a script

A reading holds what is not yet cut into tokens and the tokens that were looked at but not taken. Tokens are cut no
sooner than they are looked at: a fault in a token that is not yet needed comes after a fault in how the tokens
before it stand together, and whether code is strict counts only for tokens that are cut afterwards.
-/

namespace Pagewalk.Script

open Text

/-- How far a reading has come. -/
structure Reading where
  uncut : Uncut
  /-- The tokens that were looked at, the next one first. -/
  ahead : List Lexeme
  isStrict : Bool
  /-- The function that is read mentions `arguments`. -/
  sawArguments : Bool
  /-- The parameters of an arrow function whose arrow comes next. -/
  arrow : Option (List CodeUnits)
  deriving Inhabited

/-- A reading before anything is read. -/
def Reading.start (source : List Char) : Reading := ⟨.start source, [], false, false, none⟩

/-- A step that takes tokens or fails with the text of a fault. It knows whether it is in a function. -/
abbrev Parse (α : Type) := ReaderT Bool (StateT Reading (Except String)) α

namespace Parse

/-- The fault of a script that ends too soon. -/
def abrupt {α : Type} : Parse α := throw "abrupt end"

/-- A fault at a place. -/
def failAt {α : Type} (message : String) (p : Place) : Parse α := throw (message ++ " " ++ p.text)

/-- Cuts one more token. -/
def cutMore : Parse Unit := do
  let s ← get
  match s.uncut.next s.isStrict with
  | .ok (t, rest) => set { s with uncut := rest, ahead := s.ahead ++ [t] }
  | .error e => throw e

/-- Looks at the token so many places ahead. -/
def peekAt (n : Nat) : Parse Lexeme := do
  match n with
  | 0 => if (← get).ahead.isEmpty then cutMore
  | m + 1 =>
    discard <| peekAt m
    if (← get).ahead.length ≤ m + 1 then cutMore
  return ((← get).ahead[n]?).getD default

/-- Looks at the next token. -/
def peek : Parse Lexeme := peekAt 0

/-- Looks at a token that has to be there. -/
def needAt (n : Nat) : Parse Lexeme := do
  let t ← peekAt n
  match t.token with
  | .finish => abrupt
  | _ => return t

/-- Looks at the next token, which has to be there. -/
def need : Parse Lexeme := needAt 0

/-- Takes the next token. -/
def take : Parse Lexeme := do
  let t ← peek
  modify fun s => { s with ahead := s.ahead.tail }
  return t

/-- Takes a token that has to be there. -/
def takeNeeded : Parse Lexeme := do
  discard need
  take

/-- Where a line ends before the next token, which is not cut for that. -/
def lineEnd? : Parse (Option Place) := do
  let s ← get
  match s.ahead with
  | t :: _ => return t.lineEnd
  | [] =>
    match pass .blanks s.uncut.place none s.uncut.chars with
    | .ok (_, p, _) => return p
    | .error e => throw e

/-- The fault of a token that cannot stand here. -/
def unexpected {α : Type} (t : Lexeme) (context : String) : Parse α :=
  match t.token with
  | .finish => abrupt
  | token => failAt ("unexpected token '" ++ token.shown ++ "', " ++ context) t.start

/-- The tokens that are due, as a fault lists them. -/
def dueText : List String → String
  | [single] => "token '" ++ single ++ "'"
  | several =>
    let quoted := several.map fun s => "'" ++ s ++ "'"
    "one of " ++ ", ".intercalate quoted.dropLast ++ (quoted.getLast?.map (" or " ++ ·)).getD ""

/-- The fault of a token that stands where others are due. -/
def misplaced {α : Type} (t : Lexeme) (due : List String) (context : String) : Parse α :=
  match t.token with
  | .finish => abrupt
  | token => failAt ("expected " ++ dueText due ++ ", got '" ++ token.shown ++ "' in " ++ context) t.start

/-- The next token is this mark. -/
def atMark (s : String) : Parse Bool := return (← peek).token.isMark s

/-- Takes a mark if it is next. -/
def takeMark (s : String) : Parse Bool := do
  if ← atMark s then
    discard take
    return true
  else return false

/-- Takes a word if it is next. -/
def takeWord (s : String) : Parse Bool := do
  if (← peek).token.isWord s then
    discard take
    return true
  else return false

/-- Takes a mark that is due. -/
def needMark (s context : String) : Parse Lexeme := do
  let t ← takeNeeded
  if t.token.isMark s then return t else misplaced t [s] context

/-- A statement can end here: at a semicolon, a new line, a closing brace or the end. -/
def atStatementEnd : Parse Bool := do
  if (← lineEnd?).isSome then return true
  let t ← peek
  return t.token.isMark ";" || t.token.isMark "\x7d" || (match t.token with | .finish => true | _ => false)

/-- Takes the semicolon that may end a statement. -/
def takeStatementEnd : Parse Unit := do
  if (← lineEnd?).isNone then discard <| takeMark ";"

/-- Ends a statement. -/
def endStatement (context : String) : Parse Unit := do
  if ← atStatementEnd then takeStatementEnd else misplaced (← peek) [";"] context

end Parse

/-! ### Names -/

/-- The words that no name may be. -/
def reservedWords : List String :=
  ["break", "case", "catch", "class", "const", "continue", "debugger", "default", "delete", "do", "else", "enum",
    "export", "extends", "false", "finally", "for", "function", "if", "import", "in", "instanceof", "new", "null",
    "return", "super", "switch", "this", "throw", "true", "try", "typeof", "var", "void", "while", "with"]

/-- The words that no name may be in strict code. -/
def strictWords : List String :=
  ["implements", "interface", "let", "package", "private", "protected", "public", "static", "yield"]

/-- The token is a name that is no reserved word. -/
def Token.isFreeName : Token → Bool
  | .name s => !reservedWords.contains s
  | _ => false

open Parse

/-- Takes a name that is due. -/
def takeName : Parse CodeUnits := do
  let t ← takeNeeded
  match t.token with
  | .name s =>
    if reservedWords.contains s then misplaced t ["identifier"] "identifier parsing"
    else if (← get).isStrict && strictWords.contains s then
      unexpected t "strict reserved word cannot be an identifier"
    else return CodeUnits.ofString s
  | _ => misplaced t ["identifier"] "identifier parsing"

/-- A name that strict code must neither declare nor change. -/
def isGuarded (x : CodeUnits) : Bool := x == CodeUnits.ofString "eval" || x == CodeUnits.ofString "arguments"

/-- Strict code must neither declare nor change some names. -/
def refuseGuarded (x : CodeUnits) (p : Place) : Parse Unit := do
  if (← get).isStrict && isGuarded x then failAt ("unexpected identifier '" ++ x.toText ++ "' in strict mode") p

/-- Takes a name that is declared here. -/
def takeDeclared : Parse CodeUnits := do
  let t ← need
  let x ← takeName
  refuseGuarded x t.start
  return x

/-- Takes a name that is used here. -/
def takeUsed : Parse CodeUnits := do
  let x ← takeName
  if x == CodeUnits.ofString "arguments" then modify fun s => { s with sawArguments := true }
  return x

end Pagewalk.Script
