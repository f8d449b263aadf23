import Pagewalk.Script.Heap

/-!
# Limits on running scripts

A script is broken off where its functions stand too deep in one another, where they keep too many values, and where
a loop of one function goes around too often. No script can catch that.
-/

namespace Pagewalk.Script

/-- Breaks off because calls stand too deep. -/
def tooDeep {α : Type} : Run α := throw (.limit "exceeded maximum number of recursive calls")

/-- Breaks off because a loop went around too often. -/
def overrun {α : Type} (limit : Nat) : Run α :=
  throw (.limit ("Maximum loop iteration limit " ++ toString limit ++ " exceeded"))

/-- Counts an iteration of the running function. -/
def countIteration : Run Unit := do
  let limit := (← read).config.loopLimit
  let n := (← realm).iterations
  if n > limit then overrun limit else modifyRealm fun m => { m with iterations := n + 1 }

/-- Counts so many iterations. -/
def countIterations : Nat → Run Unit
  | 0 => return ()
  | n + 1 => do
    countIteration
    countIterations n

/-- Breaks off a call if functions stand too deep in one another, or if they keep too many values together with so
many more. -/
def checkLimits (values : Nat) : Run Unit := do
  let c ← read
  if c.config.recursionLimit ≤ c.frames then tooDeep
  if c.config.stackLimit ≤ c.stack + values then throw (.limit "exceeded maximum call stack length")

/-- Runs a step while so many values are kept for later. -/
def holding {α : Type} (values : Nat) (step : Run α) : Run α :=
  withReader (fun c => { c with stack := c.stack + values }) step

/-- Runs a step in a frame of its own, which keeps so many values and counts its iterations apart. -/
def inFrame {α : Type} (values : Nat) (step : Run α) : Run α := do
  let outer := (← realm).iterations
  modifyRealm fun m => { m with iterations := 0 }
  let framed := withReader (fun c => { c with frames := c.frames + 1, stack := c.stack + values }) step
  let outcome ← tryCatch (Except.ok <$> framed) fun e => return Except.error e
  modifyRealm fun m => { m with iterations := outer }
  match outcome with
  | .ok a => return a
  | .error e => throw e

/-- Runs a step as the call of a function with so many arguments, which keeps so many values beside them. -/
def asCall {α : Type} (arguments registers : Nat) (step : Run α) : Run α := do
  checkLimits (2 + arguments)
  inFrame (2 + arguments + registers) step

/-- Catches what a script may catch. -/
def catching {α : Type} (body : Run α) (handler : Value → Run α) : Run α :=
  tryCatch body fun
    | .thrown v => handler v
    | other => throw other

/-- Runs a step as if so many frames with so many values stood below it. -/
def atDepth {α : Type} (frames values : Nat) (step : Run α) : Run α :=
  withReader (fun c => { c with frames := frames, stack := values }) step

end Pagewalk.Script
