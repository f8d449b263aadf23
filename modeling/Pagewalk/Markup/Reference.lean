import Pagewalk.Markup.ReferenceTable
import Pagewalk.Markup.Token

/-!
# Character references

`readReference` reads what follows an ampersand. It gives the faults met, the characters that stand for the
reference, and the rest of the text; where no reference can be read it gives the ampersand itself and consumes
nothing more. What was looked at and not consumed is counted, since it becomes a run of its own.
-/

namespace Pagewalk.Markup

/-- What an ampersand and the text after it come to. -/
structure Reference where
  faults : List Fault
  chars : List Char
  rest : List Char
  /-- How many characters of the rest were looked at. -/
  ahead : Nat

/-- An ASCII letter or digit. -/
def isAlnum (c : Char) : Bool := c.isAlphanum

/-- The characters that the numbers from 0x80 to 0x9F stand for, where they do not stand for themselves. -/
def controlMeaning : List (Nat × Nat) :=
  [(0x80, 0x20AC), (0x82, 0x201A), (0x83, 0x0192), (0x84, 0x201E), (0x85, 0x2026), (0x86, 0x2020), (0x87, 0x2021),
   (0x88, 0x02C6), (0x89, 0x2030), (0x8A, 0x0160), (0x8B, 0x2039), (0x8C, 0x0152), (0x8E, 0x017D), (0x91, 0x2018),
   (0x92, 0x2019), (0x93, 0x201C), (0x94, 0x201D), (0x95, 0x2022), (0x96, 0x2013), (0x97, 0x2014), (0x98, 0x02DC),
   (0x99, 0x2122), (0x9A, 0x0161), (0x9B, 0x203A), (0x9C, 0x0153), (0x9E, 0x017E), (0x9F, 0x0178)]

/-- The character of a number and whether the number is a fault. -/
def numericMeaning (n : Nat) : Char × Bool :=
  if n > 0x10FFFF || n == 0 || (0xD800 ≤ n && n ≤ 0xDFFF) then (Char.ofNat 0xFFFD, true)
  else if 0x80 ≤ n && n ≤ 0x9F then (Char.ofNat ((controlMeaning.lookup n).getD n), true)
  else
    (Char.ofNat n,
      (1 ≤ n && n ≤ 8) || n == 0x0B || (0x0D ≤ n && n ≤ 0x1F) || n == 0x7F || (0xFDD0 ≤ n && n ≤ 0xFDEF) ||
        n % 0x10000 == 0xFFFE || n % 0x10000 == 0xFFFF)

/-- The value of a digit in a base of ten or sixteen. -/
def digitValue? (base : Nat) (c : Char) : Option Nat :=
  let n := c.toNat
  let v := if c.isDigit then some (n - 48)
    else if 65 ≤ n && n ≤ 70 then some (n - 55)
    else if 97 ≤ n && n ≤ 102 then some (n - 87)
    else none
  v.filter (· < base)

/-- A numeric reference after the number sign and the mark of its base; `written` is all after the ampersand. -/
def readNumber (base : Nat) (digits written : List Char) : Reference :=
  let run := digits.takeWhile fun c => (digitValue? base c).isSome
  if run.isEmpty then ⟨[.numericReferenceWithoutDigits], ['&'], written, written.length - digits.length⟩
  else
    let n := run.foldl (fun n c => n * base + (digitValue? base c).getD 0) 0
    let (char, invalid) := numericMeaning n
    let invalidity := if invalid then [Fault.invalidNumericReference] else []
    match digits.drop run.length with
    | [] => ⟨.endInNumericReference :: invalidity, [char], [], 0⟩
    | ';' :: rest => ⟨invalidity, [char], rest, 0⟩
    | rest => ⟨.numericReferenceWithoutSemicolon :: invalidity, [char], rest, 0⟩

/-- How many characters a reference by name looks at: none where a blank shows that there is no name. Where no name is
found, a run of letters and digits is looked at with the character after it, which may be a semicolon. -/
def searchedName (written : List Char) : Nat :=
  if (written.head?.map fun c => c == '\t' || c == '\x0c' || c == ' ').getD false then 0
  else
    let n := searched referenceNames written
    match namedReference? written, written[n - 1]? with
    | none, some c => if isAlnum c then n + ((written.drop n).takeWhile isAlnum).length + 1 else n
    | _, _ => n

/-- A reference by name. In an attribute a name without its semicolon is no reference when a letter, a digit or
an equals sign follows. -/
def readName (inAttribute : Bool) (written : List Char) : Reference :=
  let ahead := searchedName written
  match namedReference? written with
  | some (name, chars) =>
    let rest := written.drop name.length
    let found := fun faults => Reference.mk faults chars rest (ahead - name.length)
    if name.getLast? == some ';' then found []
    else
      match inAttribute, rest with
      | true, '=' :: _ => ⟨[.equalsAfterReference], ['&'], written, ahead⟩
      | true, c :: _ => if isAlnum c then ⟨[], ['&'], written, ahead⟩ else found [.referenceWithoutSemicolon]
      | _, _ => found [.referenceWithoutSemicolon]
  | none =>
    let named := written.dropWhile isAlnum
    let invalid := named.head? == some ';' && named.length < written.length
    ⟨if invalid then [.invalidReference] else [], ['&'], written, ahead⟩

/-- The reference that an ampersand begins; `written` is the text after the ampersand. -/
def readReference (inAttribute : Bool) (written : List Char) : Reference :=
  match written with
  | '#' :: [] => ⟨[.endAfterNumberSign], ['&'], written, 0⟩
  | '#' :: 'x' :: digits => readNumber 16 digits written
  | '#' :: 'X' :: digits => readNumber 16 digits written
  | '#' :: digits => readNumber 10 digits written
  | _ => readName inAttribute written

end Pagewalk.Markup
