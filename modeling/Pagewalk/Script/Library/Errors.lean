import Pagewalk.Script.Iteration

/-!
# Errors as objects

Errors are made with a message and, if one is told, with their cause; the text of an error is its name and its
message.
-/

namespace Pagewalk.Script

open Text

/-- Gives an error the message of an argument, and the cause that the next one tells. -/
def Kernel.giveMessage (k : Kernel) (r : Ref) (message options : Value) : Run Unit := do
  match message with
  | .undefined => pure ()
  | v => defineProperty r messageKey (.hidden (.text (← k.toText v)))
  match options with
  | .object o => if ← hasProperty o "cause" then defineProperty r "cause" (.hidden (← k.property o "cause"))
  | _ => pure ()

/-- Makes the error that a script asks for. An error that joins others has them first among its arguments. -/
def Kernel.makeErrorOf (k : Kernel) (kind : ErrorKind) (args : List Value) : Run Value := do
  let r ← allocate (.ofShape (some (Intrinsic.errors kind).ref) .error)
  match kind with
  | .aggregate =>
    k.giveMessage r (argument args 1) (argument args 2)
    let others := ((← makeArray []).ref?).getD 0
    k.forEachItem (← itemsIn (argument args 0)) fun i v =>
      defineProperty others (CodeUnits.ofString (toString i)) (.plain v)
    defineProperty r "errors" (.hidden (.object others))
  | _ => k.giveMessage r (argument args 0) (argument args 1)
  return .object r

/-- The text of an error: its name and its message. -/
def Kernel.errorText (k : Kernel) (this : Value) : Run Value := do
  let r ← needObject this "'this' is not an Object"
  let name ← match ← k.property r nameKey with
    | .undefined => pure (CodeUnits.ofString "Error")
    | v => k.toText v
  let message ← match ← k.property r messageKey with
    | .undefined => pure CodeUnits.empty
    | v => k.toText v
  if name.size = 0 then return .text message
  if message.size = 0 then return .text name
  return .text (name ++ (": " : CodeUnits) ++ message)

end Pagewalk.Script
