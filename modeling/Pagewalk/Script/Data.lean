import Pagewalk.Decimal.Reading
import Pagewalk.Script.Literal
import Pagewalk.Text.Utf8

/-!
# Data in their written form

Data are nothing, truth values, numbers, texts, lists and records. `Data.read` takes them from a text that writes
them and holds nothing else but blanks. Where the text is none of data the fault tells the cause and the line and the
column, in octets, at which it was seen.
-/

namespace Pagewalk.Script

open Text

/-- Data. -/
inductive Data where
  | null
  | bool (b : Bool)
  | number (x : Float)
  | text (s : String)
  | list (items : List Data)
  | record (entries : List (String × Data))
  deriving Inhabited

namespace Data

/-- Why a text does not write data. -/
inductive Cause where
  | openValue
  | openText
  | openList
  | openRecord
  | noValue
  | noWord
  | badNumber
  | largeNumber
  | badEscape
  | controlCharacter
  | loneHalf
  | openHalf
  | noColon
  | noKey
  | noListMark
  | noRecordMark
  | lastComma
  | trailing
  | tooDeep
  deriving DecidableEq, Repr, Inhabited

/-- What is said of a cause. -/
def Cause.message : Cause → String
  | openValue => "EOF while parsing a value"
  | openText => "EOF while parsing a string"
  | openList => "EOF while parsing a list"
  | openRecord => "EOF while parsing an object"
  | noValue => "expected value"
  | noWord => "expected ident"
  | badNumber => "invalid number"
  | largeNumber => "number out of range"
  | badEscape => "invalid escape"
  | controlCharacter => "control character (\\u0000-\\u001F) found while parsing a string"
  | loneHalf => "lone leading surrogate in hex escape"
  | openHalf => "unexpected end of hex escape"
  | noColon => "expected \x60:\x60"
  | noKey => "key must be a string"
  | noListMark => "expected \x60,\x60 or \x60]\x60"
  | noRecordMark => "expected \x60,\x60 or \x60\x7d\x60"
  | lastComma => "trailing comma"
  | trailing => "trailing characters"
  | tooDeep => "recursion limit exceeded"

/-- Where a text stops to write data: the rest of it, of which so many octets were looked at. A reader gives what it
read with the rest of the text, or a fault. -/
structure Fault where
  cause : Cause
  rest : List Char
  seen : Nat
  deriving Repr, Inhabited

/-- The line, and the column in it, at which some octets end. -/
def placeAfter (octets : List UInt8) : Nat × Nat :=
  octets.foldl (fun (place : Nat × Nat) (b : UInt8) => if b == 10 then (place.1 + 1, 0) else (place.1, place.2 + 1)) (1, 0)

/-- What is said of a fault in a text. -/
def Fault.message (f : Fault) (whole : List Char) : String :=
  let octets := Utf8.encode (String.ofList whole)
  let count := octets.length - Utf8.size (String.ofList f.rest) + f.seen
  let (line, column) := placeAfter (octets.take count)
  f.cause.message ++ " at line " ++ toString line ++ " column " ++ toString column

/-- A blank between data. -/
def isGap (c : Char) : Bool := c == ' ' || c == '\n' || c == '\t' || c == '\r'

/-- The text without the blanks at its start. -/
def skipGaps (cs : List Char) : List Char := cs.dropWhile isGap

/-- Takes the letters of a word. -/
def readWord (d : Data) : (letters : List Char) → List Char → Except Fault (Data × List Char)
  | [], cs => .ok (d, cs)
  | _ :: _, [] => .error ⟨.openValue, [], 0⟩
  | w :: ws, c :: cs => if c == w then readWord d ws cs else .error ⟨.noWord, c :: cs, 1⟩

/-! ### Numbers -/

/-- The digits after a point, of which there is one at least; without a point there are none. -/
def readFraction : List Char → Except Fault (List Char × List Char)
  | '.' :: cs =>
    let (digits, rest) := cs.span Char.isDigit
    if !digits.isEmpty then .ok (digits, rest)
    else if cs.isEmpty then .error ⟨.openValue, [], 0⟩
    else .error ⟨.badNumber, cs, 1⟩
  | cs => .ok ([], cs)

/-- The exponent after its mark; without a mark it is zero. -/
def readExponent (cs : List Char) : Except Fault (Int × List Char) :=
  match cs with
  | [] => .ok (0, [])
  | c :: cs =>
    if c == 'e' || c == 'E' then
      let (isNegative, ds) := Decimal.sign cs
      let (digits, rest) := ds.span Char.isDigit
      let n : Int := Decimal.digitsValue digits
      if !digits.isEmpty then .ok (if isNegative then -n else n, rest)
      else if ds.isEmpty then .error ⟨.openValue, [], 0⟩
      else .error ⟨.badNumber, ds, 1⟩
    else .ok (0, c :: cs)

/-- A number after its sign. Before the point a zero stands alone. -/
def readNumber (isNegative : Bool) (cs : List Char) : Except Fault (Data × List Char) := do
  let (whole, rest) := cs.span Char.isDigit
  if whole.isEmpty then throw (if cs.isEmpty then ⟨.openValue, [], 0⟩ else ⟨.badNumber, cs, 1⟩)
  if whole.head? == some '0' && whole.length > 1 then throw ⟨.badNumber, cs.drop 1, 1⟩
  let (fraction, rest) ← readFraction rest
  let (exponent, rest) ← readExponent rest
  let x := Decimal.ofParts whole fraction exponent
  if x.isInf then throw ⟨.largeNumber, rest, 0⟩
  return (.number (if isNegative then -x else x), rest)

/-! ### Texts -/

/-- The unit that four hexadecimal digits write. -/
def readUnit (cs : List Char) : Except Fault (UInt16 × List Char) :=
  match cs with
  | a :: b :: c :: d :: rest =>
    match Literal.natural? 16 [a, b, c, d] with
    | some n => .ok (n.toUInt16, rest)
    | none => .error ⟨.badEscape, cs, 4⟩
  | cs => if Utf8.size (String.ofList cs) < 4 then .error ⟨.openText, [], 0⟩ else .error ⟨.badEscape, cs, 4⟩

/-- Takes a character that has to stand there. -/
def expectInText (wanted : Char) : List Char → Except Fault (List Char)
  | [] => .error ⟨.openText, [], 0⟩
  | c :: cs => if c == wanted then .ok cs else .error ⟨.openHalf, c :: cs, 1⟩

/-- The character of an escape after its backslash. Two halves stand for one character. -/
def readEscape (cs : List Char) : Except Fault (Char × List Char) := do
  match cs with
  | [] => throw ⟨.openText, [], 0⟩
  | '"' :: cs => return ('"', cs)
  | '\\' :: cs => return ('\\', cs)
  | '/' :: cs => return ('/', cs)
  | 'b' :: cs => return ('\x08', cs)
  | 'f' :: cs => return ('\x0c', cs)
  | 'n' :: cs => return ('\n', cs)
  | 'r' :: cs => return ('\r', cs)
  | 't' :: cs => return ('\t', cs)
  | 'u' :: cs =>
    let (u, cs) ← readUnit cs
    if isLowHalf u then throw ⟨.loneHalf, cs, 0⟩
    if !isHighHalf u then return (Char.ofNat u.toNat, cs)
    let (v, cs) ← readUnit (← expectInText 'u' (← expectInText '\\' cs))
    if !isLowHalf v then throw ⟨.loneHalf, cs, 0⟩
    return (joinHalves u v, cs)
  | cs => throw ⟨.badEscape, cs, 1⟩

/-- The characters of a text after its first quote up to the last; there are less than so many. What was read before
them is given last first. -/
def readChars : Nat → (before : List Char) → List Char → Except Fault (String × List Char)
  | 0, _, cs => .error ⟨.openText, cs, 0⟩
  | _ + 1, _, [] => .error ⟨.openText, [], 0⟩
  | n + 1, before, c :: cs =>
    if c == '"' then .ok (String.ofList before.reverse, cs)
    else if c == '\\' then
      match readEscape cs with
      | .ok (x, rest) => readChars n (x :: before) rest
      | .error f => .error f
    else if c.toNat < 32 then .error ⟨.controlCharacter, cs, 0⟩
    else readChars n (c :: before) cs

/-- A text after its first quote. -/
def readText (cs : List Char) : Except Fault (String × List Char) := readChars (cs.length + 1) [] cs

/-! ### Lists and records -/

/-- What stands after a comma, which is not the last of its list or record. -/
def afterComma (closing : Char) (cs : List Char) : Except Fault (List Char) :=
  match skipGaps cs with
  | [] => .error ⟨.openValue, [], 0⟩
  | c :: rest => if c == closing then .error ⟨.lastComma, c :: rest, 1⟩ else .ok (c :: rest)

/-- The items of a list up to its closing bracket; there are less than so many. -/
def readItems (read : List Char → Except Fault (Data × List Char)) :
    Nat → (before : List Data) → List Char → Except Fault (Data × List Char)
  | 0, _, cs => .error ⟨.openList, cs, 0⟩
  | n + 1, before, cs => do
    match skipGaps cs with
    | [] => throw ⟨.openList, [], 0⟩
    | ']' :: rest => return (.list before.reverse, rest)
    | c :: rest =>
      let start ← if before.isEmpty then pure (c :: rest)
        else if c == ',' then afterComma ']' rest
        else throw ⟨.noListMark, c :: rest, 1⟩
      let (d, rest) ← read start
      readItems read n (d :: before) rest

/-- The key of an entry. -/
def readKey : List Char → Except Fault (String × List Char)
  | '"' :: cs => readText cs
  | cs => .error ⟨.noKey, cs, 1⟩

/-- What stands after the colon of an entry. -/
def afterColon (cs : List Char) : Except Fault (List Char) :=
  match skipGaps cs with
  | [] => .error ⟨.openRecord, [], 0⟩
  | ':' :: rest => .ok rest
  | rest => .error ⟨.noColon, rest, 1⟩

/-- The entries of a record up to its closing brace; there are less than so many. -/
def readEntries (read : List Char → Except Fault (Data × List Char)) :
    Nat → (before : List (String × Data)) → List Char → Except Fault (Data × List Char)
  | 0, _, cs => .error ⟨.openRecord, cs, 0⟩
  | n + 1, before, cs => do
    match skipGaps cs with
    | [] => throw ⟨.openRecord, [], 0⟩
    | c :: rest =>
      if c == closing then return (.record before.reverse, rest)
      let start ← if before.isEmpty then pure (c :: rest)
        else if c == ',' then afterComma closing rest
        else throw ⟨.noRecordMark, c :: rest, 1⟩
      let (key, rest) ← readKey start
      let (d, rest) ← read (← afterColon rest)
      readEntries read n ((key, d) :: before) rest
where
  closing : Char := '\x7d'

/-- The data at the start of a text, in which lists and records stand in one another at most so deep. -/
def readValue : Nat → List Char → Except Fault (Data × List Char)
  | 0, cs => .error ⟨.tooDeep, cs, 0⟩
  | depth + 1, cs =>
    match skipGaps cs with
    | [] => .error ⟨.openValue, [], 0⟩
    | c :: rest =>
      let bounded (inner : Except Fault (Data × List Char)) : Except Fault (Data × List Char) :=
        if depth = 0 then .error ⟨.tooDeep, c :: rest, 1⟩ else inner
      match c with
      | 'n' => readWord .null "ull".toList rest
      | 't' => readWord (.bool true) "rue".toList rest
      | 'f' => readWord (.bool false) "alse".toList rest
      | '-' => readNumber true rest
      | '"' => (readText rest).map fun (s, rest) => (.text s, rest)
      | '[' => bounded (readItems (readValue depth) (rest.length + 1) [] rest)
      | '\x7b' => bounded (readEntries (readValue depth) (rest.length + 1) [] rest)
      | c => if c.isDigit then readNumber false (c :: rest) else .error ⟨.noValue, c :: rest, 1⟩

/-- How deep lists and records may stand in one another, and one more. -/
def maxDepth : Nat := 128

/-- The data that a text writes, or what is wrong with it. -/
def read (cs : List Char) : Except String Data :=
  match readValue maxDepth cs with
  | .error f => .error (f.message cs)
  | .ok (d, rest) =>
    match skipGaps rest with
    | [] => .ok d
    | rest => .error (Fault.message ⟨.trailing, rest, 1⟩ cs)

end Data

end Pagewalk.Script
