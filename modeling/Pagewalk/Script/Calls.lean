import Pagewalk.Script.Evaluation
import Pagewalk.Script.Library.Arrays
import Pagewalk.Script.Library.Dates
import Pagewalk.Script.Library.Environment
import Pagewalk.Script.Library.Errors
import Pagewalk.Script.Library.Escapes
import Pagewalk.Script.Library.Functions
import Pagewalk.Script.Library.Nodes
import Pagewalk.Script.Library.Numbers
import Pagewalk.Script.Library.Objects
import Pagewalk.Script.Library.Restored
import Pagewalk.Script.Library.Written
import Pagewalk.Script.Parser

/-!
# Calls

Calling functions, of scripts and built in, and making objects by them. A kernel of one more level calls functions
whose own calls go through the kernel below, so that the depth of calls is bounded; the bound lies above the limit
on the frames of scripts, which is met first.
-/

namespace Pagewalk.Script

open Text

/-- The object that `this` means in a function that is not strict. -/
def looseThis (this : Value) : Run Value :=
  match this with
  | .object _ => return this
  | .undefined => return .object Intrinsic.global.ref
  | .null => return .object Intrinsic.global.ref
  | v => return .object (← toObject v)

/-- The names of the parameters with the arguments. -/
def parameterSlots : List Name → List Value → Std.HashMap Name Slot → Std.HashMap Name Slot
  | [], _, m => m
  | x :: xs, [], m => parameterSlots xs [] (m.insert x ⟨some .undefined, .mutable⟩)
  | x :: xs, v :: vs, m => parameterSlots xs vs (m.insert x ⟨some v, .mutable⟩)

/-- Calls a function of a script. -/
def Kernel.callClosure (k : Kernel) (self : Ref) (f : Func) (scope : Option ScopeRef) (held this : Value)
    (args : List Value) : Run Value :=
  asCall args.length 0 do
    let traits := f.traits
    let this ← if traits.isArrow then pure held else if traits.isStrict then pure this else looseThis this
    let slots := blockSlots f.body (parameterSlots f.params args ∅)
    let s ← newScope slots scope
    -- A name that the function declares itself hides the arguments.
    if traits.usesArguments && !traits.isArrow && !slots.contains "arguments" then
      giveArguments s (← if traits.isStrict then strictArguments args else argumentsObject args self s f.params)
    let fr : Frame := ⟨some s, some s, this, traits.isStrict⟩
    hoist fr f.body
    match ← Stmt.runAll k fr none f.body with
    | .ret v => return v
    | _ => return .undefined

/-- Evaluates a script in the outermost scope. A strict script keeps its variables to itself. -/
def Kernel.runProgram (k : Kernel) (p : Program) : Run Value := do
  let slots := blockSlots p.body ∅
  let fr : Frame ←
    if p.isStrict then do
      let s ← newScope slots none
      pure ⟨some s, some s, .object Intrinsic.global.ref, true⟩
    else if slots.isEmpty then pure ⟨none, none, .object Intrinsic.global.ref, false⟩
    -- What a block declares stays in the script; its variables are those of the global object.
    else do
      let s ← newScope slots none
      pure ⟨some s, none, .object Intrinsic.global.ref, false⟩
  inFrame 2 do
    hoist fr p.body
    match ← Stmt.runAll k fr none p.body with
    | .next v => return v.getD .undefined
    | .ret v => return v
    | .exit _ v => return v.getD .undefined
    | .again _ v => return v.getD .undefined

/-- Evaluates the text of a script. -/
def Kernel.runText (k : Kernel) (source : CodeUnits) : Run Value := do
  match Program.read source.toLossyText.toList with
  | .ok p => k.runProgram p
  | .error fault => fail .malformed fault

/-- Makes a function from the texts of its parameters and of its body. It knows no scope but the outermost. -/
def Kernel.makeFunction (k : Kernel) (args : List Value) : Run Value := do
  let texts ← args.mapM k.toText
  let params := CodeUnits.join "," texts.dropLast
  let body := (texts.getLast?).getD CodeUnits.empty
  match Func.read "anonymous" params.toLossyText.toList body.toLossyText.toList with
  | .ok f => makeClosure f ⟨none, none, .object Intrinsic.global.ref, false⟩ none
  | .error fault => fail .malformed fault

/-- What a built-in function does when it is called; one that has a frame takes a `this` as a function of a script
does. -/
def Kernel.runNative (k : Kernel) (n : Native) (this : Value) (args : List Value) : Run Value := do
  let first := argument args 0
  match n with
  | .nothing => return .undefined
  | .evaluate =>
    match first with
    | .text s => k.runText s
    | v => return v
  | .object f => k.objectFunction f this args
  | .functionMake => k.makeFunction args
  | .function m => k.functionMethod m this args
  | .refuseCaller => typeFault callerFault
  | .arrayMake =>
    match args with
    | [.number x] =>
      -- One number is the length of the array, and not its item.
      let n := (Number.toWord x).toNat
      if Float.ofNat n != x then fail .range "invalid array length"
      return .object (← allocate (.ofShape (some Intrinsic.arrays.ref) (.array #[] n)))
    | vs => makeArray vs
  | .arrayOf => makeArray args
  | .arrayFrom => k.arrayFrom first (argument args 1) (argument args 2)
  | .arrayCheck =>
    match first with
    | .object r => return .bool (← object r).items?.isSome
    | _ => return .bool false
  | .array m => m.run k this args
  | .textMake => if args.isEmpty then return .emptyText else return .text (← k.toText first)
  | .fromCharCode =>
    let us ← args.mapM fun v => do return (Number.toWord (← k.toNumber v)).toUInt16
    return .text ⟨us.toArray⟩
  | .fromCodePoint =>
    let us ← args.mapM fun v => do unitsOfCode (← k.toNumber v)
    return .text ⟨us.flatten.toArray⟩
  | .text m => m.run k this args
  | .simple f => k.simpleFunction f this args
  | .math f => k.mathFunction f args
  | .jsonRead => k.readData first (argument args 1)
  | .readAddress whole => k.readAddress whole first
  | .writeAddress whole => k.writeAddress whole first
  | .jsonWrite => k.writeData first (argument args 1) (argument args 2)
  | .errorMake kind => k.makeErrorOf kind args
  | .errorText => k.errorText this
  | .promise f => k.promiseFunction f this args
  | .date f => k.dateFunction f this args
  | .bridge b => b.run k args
  | .consoleWrite => k.consoleWrite args
  | .environment f => k.environmentFunction f args
  | .node f => k.nodeFunction f this args

/-- Calls a built-in function. -/
def Kernel.callNative (k : Kernel) (n : Native) (this : Value) (args : List Value) : Run Value := do
  match n.registers? with
  | some registers => asCall args.length registers do k.runNative n (← looseThis this) args
  | none =>
    checkLimits 0
    k.runNative n this args

/-- Calls a value. -/
def Kernel.callValue (k : Kernel) (f this : Value) (args : List Value) : Run Value := do
  match f with
  | .object r =>
    match (← object r).shape with
    | .closure g scope held => k.callClosure r g scope held this args
    | .native n _ => k.callNative n this args
    | .bound target held before => k.apply target held (before ++ args)
    | _ => typeFault "not a callable function"
  | _ => typeFault "not a callable function"

/-- Makes an object by a function that gets it as its `this`; the function may answer another object. -/
def Kernel.constructFresh (k : Kernel) (f : Ref) (call : (this : Value) → Run Value) : Run Value := do
  let parent := ((← k.property f parentKey).ref?).getD Intrinsic.objects.ref
  let made ← allocate (.ofShape (some parent) .plain)
  match ← call (.object made) with
  | .object other => return .object other
  | _ => return .object made

/-- Makes an object by a built-in function. -/
def Kernel.constructNative (k : Kernel) (f : Ref) (n : Native) (args : List Value) : Run Value := do
  if n.registers?.isSome then return ← k.constructFresh f fun this => k.callNative n this args
  checkLimits 0
  match n with
  | .promise .make => k.makePromise (argument args 0)
  | .textMake =>
    let s ← if args.isEmpty then pure CodeUnits.empty else k.toText (argument args 0)
    return .object (← toObject (.text s))
  | .simple .numberMake => return .object (← toObject (← k.simpleFunction .numberMake .undefined args))
  | .simple .boolMake => return .object (← toObject (.bool (argument args 0).isTruthy))
  | .date .make => k.makeDate args
  | n => k.runNative n .undefined args

/-- Makes an object by a value. -/
def Kernel.constructBy (k : Kernel) (f : Value) (args : List Value) : Run Value := do
  match f with
  | .object r =>
    match (← object r).shape with
    | .closure g scope held =>
      if g.traits.isArrow || g.traits.isMethod then typeFault "not a constructor"
      k.constructFresh r fun this => k.callClosure r g scope held this args
    | .native n isMaker => if isMaker then k.constructNative r n args else typeFault "not a constructor"
    | .bound target _ before => k.construct target (before ++ args)
    | _ => typeFault "not a constructor"
  | _ => typeFault "not a constructor"

/-- The kernel of so many levels. -/
def kernel : Nat → Kernel
  | 0 => ⟨fun _ _ _ => tooDeep, fun _ _ => tooDeep⟩
  | n + 1 => ⟨fun f this args => (kernel n).callValue f this args, fun f args => (kernel n).constructBy f args⟩

end Pagewalk.Script
