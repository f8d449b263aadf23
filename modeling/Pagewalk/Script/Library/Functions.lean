import Pagewalk.Script.Library.Inspection

/-!
# What functions do

The methods of functions. A function does not show how it is written; one that is bound to a value has no name to
show either.
-/

namespace Pagewalk.Script

open Text

/-- The name of a function that says what it is called. -/
def Kernel.ownName (k : Kernel) (r : Ref) : Run CodeUnits := do
  match ← k.property r nameKey with
  | .text s => return s
  | _ => return CodeUnits.empty

/-- The text of a function. -/
def Kernel.functionText (k : Kernel) (this : Value) : Run Value := do
  let r ← needObject this "not a function"
  let name ← match (← object r).shape with
    | .closure f .. => pure f.name
    | .native .. => k.ownName r
    | .bound .. => pure CodeUnits.empty
    | _ => typeFault "not a function"
  return .text (("function " : CodeUnits) ++ name ++ ("() { [native code] }" : CodeUnits))

/-- The number of arguments that a function still asks for after some are given. -/
def Kernel.remainingArity (k : Kernel) (r : Ref) (given : Nat) : Run Float := do
  match (← object r).own? lengthKey with
  | none => return 0.0
  | some p =>
    match ← k.readProperty (some p) (.object r) with
    | .number x =>
      let left := Number.toInteger x - given.toFloat
      return if left > 0.0 then left else 0.0
    | _ => return 0.0

/-- A value has to be a function. -/
def needFunction (this : Value) : Run Unit := do
  if !(← isCallable this) then typeFault ((← shownText this) ++ " is not a function")

/-- What functions do. -/
def Kernel.functionMethod (k : Kernel) (m : FunctionMethod) (this : Value) (args : List Value) : Run Value := do
  let first := argument args 0
  match m with
  | .call =>
    needFunction this
    k.apply this first (args.drop 1)
  | .apply =>
    needFunction this
    k.apply this first (← k.argumentsOf (argument args 1))
  | .bind =>
    let r ← needObject this "cannot bind \x60this\x60 without a callable function"
    if !(← isCallable this) then typeFault "cannot bind \x60this\x60 without a callable function"
    let given := args.drop 1
    let arity ← k.remainingArity r given.length
    let name := ("bound " : CodeUnits) ++ (← k.ownName r)
    let o := functionObject (.bound this first given) name 0
    return .object (← allocate (o.setProperty lengthKey (.data (.number arity) false false true)) (by
      rw [shape_setProperty, shape_functionObject]
      rfl))
  | .text => k.functionText this

end Pagewalk.Script
