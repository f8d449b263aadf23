import Pagewalk.Text.CodeUnits
import Pagewalk.Decimal.Reading

/-!
# Literals of script

How texts and numbers are written in a script. In a text a backslash begins an escape; up to three octal digits
after it stand for the unit of that number, so a zero digit that follows an escaped NUL is taken into the escape.
A line may not end inside a text unless its end is escaped. Strict code knows no octal escapes and no octal numbers
that a zero alone begins.
-/

namespace Pagewalk.Script

open Text

/-- A character that ends a line. -/
def isLineEnd (c : Char) : Bool := c == '\n' || c == '\r' || c.toNat == 0x2028 || c.toNat == 0x2029

namespace Literal

/-- Why what begins as a literal is none. -/
inductive LiteralFault where
  | unterminated
  | openEscape
  | shortEscape
  | openPoint
  | badPoint
  | pointTooLarge
  | badUnit
  | badHex
  | strictOctalEscape
  | strictDigitEscape
  | strictOctal
  | noDigit (base : String)
  | doubleSeparator
  | lastSeparator
  | separator
  | emptyExponent
  | badExponent
  | noDigitAfterPlus
  | noDigitAfterMinus
  | adjacentName
  deriving DecidableEq, Repr

namespace LiteralFault

/-- What is said of the fault. -/
def message : LiteralFault → String
  | unterminated => "unterminated string literal"
  | openEscape => "unterminated escape sequence in literal"
  | shortEscape => "unexpected EOF when filling buffer"
  | openPoint => "Unexpected end of file when looking for character 125"
  | badPoint => "malformed Unicode character escape sequence"
  | pointTooLarge => "Unicode codepoint must not be greater than 0x10FFFF in escape sequence"
  | badUnit => "invalid Unicode escape sequence"
  | badHex => "invalid Hexadecimal escape sequence"
  | strictOctalEscape => "octal escape sequences are not allowed in strict mode"
  | strictDigitEscape => "\\8 and \\9 are not allowed in strict mode"
  | strictOctal => "implicit octal literals are not allowed in strict mode"
  | noDigit base => "expected " ++ base ++ " digit after number base prefix"
  | doubleSeparator => "only one underscore is allowed as numeric separator"
  | lastSeparator => "underscores are not allowed at the end of numbers"
  | separator => "separator is not allowed"
  | emptyExponent => "Abrupt end: No exponential value found"
  | badExponent => "When lexing exponential value found unexpected char"
  | noDigitAfterPlus => "No digit found after + symbol"
  | noDigitAfterMinus => "No digit found after - symbol"
  | adjacentName => "a numeric literal must not be followed by an alphanumeric, $ or _ characters"

/-- Where the script ends too soon no place is told. -/
def hasPlace : LiteralFault → Bool
  | unterminated => false
  | openEscape => false
  | shortEscape => false
  | openPoint => false
  | _ => true

end LiteralFault

/-- What can fail with a fault and the characters from its place on. -/
abbrev Fallible := Except (LiteralFault × List Char)

/-- The value of a hexadecimal digit. -/
def hexValue? (c : Char) : Option Nat :=
  if c.isDigit then some (c.toNat - '0'.toNat)
  else if 'a' ≤ c.toLower && c.toLower ≤ 'f' then some (c.toLower.toNat - 'a'.toNat + 10)
  else none

/-- The character is a digit of a base. -/
def isDigitOf (base : Nat) (c : Char) : Bool := (hexValue? c).any (· < base)

/-- The whole number that digits write in a base; `none` if one of them is none of its digits. -/
def natural? (base : Nat) (ds : List Char) : Option Nat :=
  if ds.isEmpty then none
  else ds.foldl (fun acc c =>
    acc.bind fun n => (hexValue? c).bind fun d => if d < base then some (n * base + d) else none) (some 0)

/-- The whole number that digits write in a base where a plus may stand before them. -/
def plusNatural? (base : Nat) : List Char → Option Nat
  | '+' :: ds => natural? base ds
  | ds => natural? base ds

/-- An octal digit. -/
def isOctal (c : Char) : Bool := '0' ≤ c && c ≤ '7'

/-- The value of an octal digit. -/
def octalValue (c : Char) : Nat := c.toNat - '0'.toNat

/-- The unit of an octal escape and what follows it. No escape goes above 377. -/
def octalEscape (d : Char) (cs : List Char) : UInt16 × List Char :=
  match cs with
  | e :: f :: rest =>
    if isOctal e then
      if isOctal f && d ≤ '3' then ((octalValue d * 64 + octalValue e * 8 + octalValue f).toUInt16, rest)
      else ((octalValue d * 8 + octalValue e).toUInt16, f :: rest)
    else ((octalValue d).toUInt16, cs)
  | [e] => if isOctal e then ((octalValue d * 8 + octalValue e).toUInt16, []) else ((octalValue d).toUInt16, cs)
  | [] => ((octalValue d).toUInt16, [])

/-- The units of a code point; half of a pair may stand alone. -/
def unitsOfPoint (n : Nat) : List UInt16 :=
  if 0xD800 ≤ n && n < 0xE000 then [n.toUInt16] else unitsOfChar (Char.ofNat n)

/-- The units of an escape, which begins after its backslash, and what follows it. -/
def escape (isStrict : Bool) : List Char → Except LiteralFault (List UInt16 × List Char)
  | [] => .error .openEscape
  | 'n' :: cs => .ok ([10], cs)
  | 't' :: cs => .ok ([9], cs)
  | 'r' :: cs => .ok ([13], cs)
  | 'b' :: cs => .ok ([8], cs)
  | 'f' :: cs => .ok ([12], cs)
  | 'v' :: cs => .ok ([11], cs)
  | 'x' :: a :: b :: cs =>
    match plusNatural? 16 [a, b] with
    | some n => .ok ([n.toUInt16], cs)
    | none => .error .badHex
  | 'x' :: _ => .error .shortEscape
  | 'u' :: '\x7b' :: cs =>
    match cs.dropWhile (· != '\x7d') with
    | [] => .error .openPoint
    | _ :: rest =>
      match plusNatural? 16 (cs.takeWhile (· != '\x7d')) with
      | some n =>
        if n ≥ 0x100000000 then .error .badPoint
        else if n ≥ 0x110000 then .error .pointTooLarge
        else .ok (unitsOfPoint n, rest)
      | none => .error .badPoint
  | 'u' :: a :: b :: c :: d :: cs =>
    match plusNatural? 16 [a, b, c, d] with
    | some n => .ok ([n.toUInt16], cs)
    | none => .error .badUnit
  | 'u' :: _ => .error .shortEscape
  | '\r' :: '\n' :: cs => .ok ([], cs)
  | c :: cs =>
    if isOctal c then
      if isStrict && !(c == '0' && !(cs.head?.any Char.isDigit)) then .error .strictOctalEscape
      else
        let (u, rest) := octalEscape c cs
        .ok ([u], rest)
    else if isStrict && c.isDigit then .error .strictDigitEscape
    else if isLineEnd c then .ok ([], cs)
    else .ok (unitsOfChar c, cs)

/-- Reads a text up to its closing mark: its units and what follows the mark. -/
def readUnits (isStrict : Bool) (mark : Char) (cs : List Char) (acc : Array UInt16) : Fallible (CodeUnits × List Char) :=
  match cs with
  | [] => .error (.unterminated, [])
  | c :: rest =>
    if c == mark then .ok (⟨acc⟩, rest)
    else if c == '\\' then
      match escape isStrict rest with
      | .error e => .error (e, c :: rest)
      | .ok (us, more) =>
        if more.length < rest.length + 1 then readUnits isStrict mark more (acc ++ us.toArray)
        else .error (.unterminated, [])
    else if c == '\n' || c == '\r' then .error (.unterminated, [])
    else readUnits isStrict mark rest (acc ++ (unitsOfChar c).toArray)
termination_by cs.length
decreasing_by all_goals (simp only [List.length_cons]; omega)

/-- The value of a text that is one whole literal between double quotes. -/
def value? (s : String) : Option CodeUnits :=
  match s.toList with
  | '"' :: cs =>
    match readUnits false '"' cs #[] with
    | .ok (u, []) => some u
    | _ => none
  | _ => none

/-! ### Numbers -/

/-- Digits of a base at the start of some characters, with single separators between them. -/
def digitsFrom (base : Nat) (afterSeparator : Bool) (acc : List Char) (before : List Char) :
    List Char → Fallible (List Char × List Char)
  | [] => if afterSeparator then .error (.lastSeparator, before) else .ok (acc.reverse, [])
  | c :: cs =>
    if c == '_' then
      if afterSeparator then .error (.doubleSeparator, cs) else digitsFrom base true acc (c :: cs) cs
    else if isDigitOf base c then digitsFrom base false (c :: acc) before cs
    else if afterSeparator then .error (.lastSeparator, before)
    else .ok (acc.reverse, c :: cs)

/-- Digits of a base at the start of some characters. -/
def digits (base : Nat) (cs : List Char) : Fallible (List Char × List Char) := digitsFrom base false [] cs cs

/-- An exponent after its mark. -/
def exponent (cs : List Char) : Fallible (Int × List Char) := do
  match cs with
  | [] => .error (.emptyExponent, [])
  | '+' :: ds =>
    if !(ds.head?.any Char.isDigit) then .error (.noDigitAfterPlus, ds)
    let (n, rest) ← digits 10 ds
    return (Decimal.digitsValue n, rest)
  | '-' :: ds =>
    if !(ds.head?.any Char.isDigit) then .error (.noDigitAfterMinus, ds)
    let (n, rest) ← digits 10 ds
    return (-(Decimal.digitsValue n : Int), rest)
  | d :: ds =>
    if !d.isDigit then .error (.badExponent, ds)
    let (n, rest) ← digits 10 (d :: ds)
    return (Decimal.digitsValue n, rest)

/-- A number ends where no name could go on. -/
def ended (x : Float) (rest : List Char) : Fallible (Float × List Char) :=
  match rest with
  | c :: _ => if c.isAlphanum || c == '$' || c == '_' then .error (.adjacentName, rest) else .ok (x, rest)
  | [] => .ok (x, rest)

/-- A whole number after the two characters that tell its base. -/
def inBase (base : Nat) (name : String) (cs : List Char) : Fallible (Float × List Char) := do
  match cs with
  | [] => .ok (0.0, [])
  | d :: _ =>
    if !isDigitOf base d then .error (.noDigit name, cs)
    let (ds, rest) ← digits base cs
    ended (Float.ofScientific ((natural? base ds).getD 0) false 0) rest

/-- What follows the whole digits of a decimal: its fraction and its exponent. -/
def decimalRest (whole rest : List Char) : Fallible (Float × List Char) := do
  let (fraction, rest) ← match rest with
    | '.' :: more => digits 10 more
    | rest => pure ([], rest)
  let (e, rest) ← match rest with
    | c :: more => if c == 'e' || c == 'E' then exponent more else pure ((0 : Int), c :: more)
    | [] => pure ((0 : Int), [])
  ended (Decimal.ofParts whole fraction e) rest

/-- The number at the start of some characters, which begin with a digit, or with a point and a digit. A zero before
other digits makes them octal if they can be. -/
def number (isStrict : Bool) (cs : List Char) : Fallible (Float × List Char) := do
  match cs with
  | '0' :: 'x' :: rest => inBase 16 "hexadecimal" rest
  | '0' :: 'X' :: rest => inBase 16 "hexadecimal" rest
  | '0' :: 'o' :: rest => inBase 8 "octal" rest
  | '0' :: 'O' :: rest => inBase 8 "octal" rest
  | '0' :: 'b' :: rest => inBase 2 "binary" rest
  | '0' :: 'B' :: rest => inBase 2 "binary" rest
  | '0' :: d :: rest =>
    if d.isDigit then
      if isStrict then .error (.strictOctal, cs)
      let ds := (d :: rest).takeWhile Char.isDigit
      let rest := (d :: rest).dropWhile Char.isDigit
      if rest.head? == some '_' then .error (.separator, rest)
      if ds.all isOctal then ended (Float.ofScientific ((natural? 8 ds).getD 0) false 0) rest
      else decimalRest ds rest
    else decimalRest ['0'] (d :: rest)
  | cs =>
    let (whole, rest) ← digits 10 cs
    decimalRest whole rest

end Literal

end Pagewalk.Script
