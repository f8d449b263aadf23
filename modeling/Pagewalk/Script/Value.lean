import Pagewalk.Text.CodeUnits

/-!
# Script values

A script value is a plain datum or a reference to an object. Numbers are of double width, and texts are sequences
of UTF-16 units.
-/

namespace Pagewalk.Script

open Text

/-- Where an object stands in its realm. -/
abbrev Ref := Nat

/-- A value. -/
inductive Value where
  | undefined
  | null
  | bool (b : Bool)
  | number (x : Float)
  | text (s : CodeUnits)
  | object (r : Ref)
  deriving Inhabited, Repr

namespace Value

/-- What is no number. -/
def nan : Value := number (0.0 / 0.0)

/-- A natural number as a value. -/
def nat (n : Nat) : Value := number n.toFloat

/-- A text of characters as a value. -/
def string (s : String) : Value := text (CodeUnits.ofString s)

/-- The empty text. -/
def emptyText : Value := text CodeUnits.empty

/-- A value that counts as true. -/
def isTruthy : Value → Bool
  | undefined => false
  | null => false
  | bool b => b
  | number x => !(x == 0.0 || x.isNaN)
  | text s => s.size != 0
  | object _ => true

/-- A value that stands for nothing: undefined or null. -/
def isNullish : Value → Bool
  | undefined => true
  | null => true
  | _ => false

/-- Equality without conversion; what is no number differs from itself, and both zeros are equal. -/
def strictEq : Value → Value → Bool
  | undefined, undefined => true
  | null, null => true
  | bool a, bool b => a == b
  | number a, number b => a == b
  | text a, text b => a == b
  | object a, object b => a == b
  | _, _ => false

/-- Equality as a container has it: what is no number equals itself. -/
def sameZero : Value → Value → Bool
  | number a, number b => a == b || (a.isNaN && b.isNaN)
  | a, b => strictEq a b

/-- Equality that tells all values apart that a script can tell apart: what is no number equals itself, and the zeros
differ. -/
def same : Value → Value → Bool
  | number a, number b => (a == b && (a != 0.0 || 1.0 / a == 1.0 / b)) || (a.isNaN && b.isNaN)
  | a, b => strictEq a b

/-- The object of a value. -/
def ref? : Value → Option Ref
  | object r => some r
  | _ => none

end Value

end Pagewalk.Script
