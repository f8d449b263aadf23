import Pagewalk.Script.Convert

/-!
# Values shown to a reader

How a thrown value is shown that nothing caught. No function of a script is called for that: an error is shown by its
name and its message, an array by its items, and any other object by its properties, one on each line.
-/

namespace Pagewalk.Script

open Text

/-- A text set right in a width. -/
def setRight (width : Nat) (s : String) : String := String.ofList (List.replicate (width - s.length) ' ') ++ s

/-- The text of a property that is no accessor, as it stands along the line of parents. -/
def plainText (r : Ref) (key : Name) (missing : String) : Run String := do
  match ← findProperty r key with
  | some (.data .undefined ..) => return missing
  | some (.data v ..) => return (textOfSimple v).toText
  | _ => return missing

/-- A simple value as it is shown. -/
def shownSimple : Value → String
  | .text s => "\"" ++ s.toText ++ "\""
  | .number x => if x == 0.0 && 1.0 / x < 0.0 then "-0" else Decimal.compact x
  | v => (textOfSimple v).toText

/-- An error as it is shown. -/
def shownError (r : Ref) : Run String := do
  let name ← plainText r nameKey "Error"
  let message ← plainText r messageKey ""
  return if name == "" then message else if message == "" then name else name ++ ": " ++ message

/-- What is shown for a property that is an accessor. -/
def shownAccessor (get set : Option Ref) : String :=
  match get, set with
  | some _, some _ => "Getter & Setter"
  | none, some _ => "Setter"
  | some _, none => "Getter"
  | none, none => "No Getter/Setter"

/-- The properties of an object as they are shown, each on a line of its own and set right in a width; an object
within itself is not shown again. At most so many objects stand in one another. -/
def shownObject : Nat → (around : List Ref) → (width : Nat) → Ref → Run String
  | 0, _, _, _ => return "[Cycle]"
  | n + 1, around, width, r => do
    if around.contains r then return "[Cycle]"
    let o ← object r
    let lines ← o.keys.mapM fun key => do
      let shown ← match o.own? key with
        | some (.data (.object inner) ..) => shownObject n (r :: around) (width + 4) inner
        | some (.data v ..) => pure (shownSimple v)
        | some (.accessor get set ..) => pure (shownAccessor get set)
        | none => pure "undefined"
      return setRight width key.toText ++ ": " ++ shown
    return "\x7b\n" ++ String.intercalate ",\n" lines ++ "\n" ++ setRight (width - 4) "" ++ "\x7d"

/-- A function as it is shown. -/
def shownFunction (r : Ref) : Run String := do
  let name ← plainText r nameKey ""
  return if name == "" then "[Function (anonymous)]" else "[Function: " ++ name ++ "]"

/-- A value as it is shown; the items of an array are shown where it does not stand in another. At most so many
promises stand in one another. -/
def shownValue : Nat → (withItems : Bool) → Value → Run String
  | 0, _, _ => return "[Cycle]"
  | n + 1, withItems, v => do
    match v with
    | .object r =>
      let o ← object r
      match o.shape with
      | .boxed (.text s) => return "String \x7b \"" ++ s.toText ++ "\" \x7d"
      | .boxed (.bool b) => return "Boolean \x7b " ++ (if b then "true" else "false") ++ " \x7d"
      | .boxed v => return "Number \x7b " ++ shownSimple v ++ " \x7d"
      | .array _ length =>
        if !withItems then return "Array(" ++ toString length ++ ")"
        if length = 0 then return "[]"
        let parts ← (List.range length).mapM fun i => do
          match o.own? (Obj.indexKey i) with
          | some (.data v ..) => shownValue n false v
          | some (.accessor get set ..) => return shownAccessor get set
          | none => return "<empty>"
        return "[ " ++ String.intercalate ", " parts ++ " ]"
      | .error => shownError r
      | .promise (.pending _) => return "Promise \x7b <pending> \x7d"
      | .promise (.fulfilled v) => return "Promise \x7b " ++ (← shownValue n true v) ++ " \x7d"
      | .promise (.rejected v) => return "Promise \x7b <rejected> " ++ (← shownValue n true v) ++ " \x7d"
      | _ =>
        if o.isCallable then shownFunction r else shownObject ((← realm).objects.size + 1) [] 4 r
    | v => return shownSimple v

/-- The text by which a value is shown. -/
def shownText (v : Value) : Run String := do shownValue ((← realm).objects.size + 1) true v

end Pagewalk.Script
