import Pagewalk.Text.Blank
import Pagewalk.Text.Shown

/-!
# Quoted text

`quote` writes a text between double quotes: quotes, backslashes, NUL, tab, line feed and carriage return have
escapes of two characters, a character that is not shown is written `\u{…}` in small hexadecimal digits, and any
other character stands for itself.
-/

namespace Pagewalk.Text

/-- The written form of one character of a quoted text. -/
def escapeChar (c : Char) : List Char :=
  match c with
  | '\x00' => ['\\', '0']
  | '\t' => ['\\', 't']
  | '\n' => ['\\', 'n']
  | '\r' => ['\\', 'r']
  | '\"' => ['\\', '\"']
  | '\\' => ['\\', '\\']
  | c => if isShown c then [c] else "\\u\x7b".toList ++ Nat.toDigits 16 c.toNat ++ ['\x7d']

/-- A text between double quotes. -/
def quote (s : String) : String :=
  String.ofList ('\"' :: s.toList.flatMap escapeChar ++ ['\"'])

end Pagewalk.Text
