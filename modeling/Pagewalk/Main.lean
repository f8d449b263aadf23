import Pagewalk.Command.Report

/-!
# The program

Reads the input and the surroundings, and writes the report.
-/

open Pagewalk

/-- The cause of a failure in the words of the operating system, with its number. -/
def causeOf : IO.Error → String
  | .alreadyExists _ n s => numbered s n
  | .otherError n s => numbered s n
  | .resourceBusy n s => numbered s n
  | .resourceVanished n s => numbered s n
  | .unsupportedOperation n s => numbered s n
  | .hardwareFault n s => numbered s n
  | .unsatisfiedConstraints n s => numbered s n
  | .illegalOperation n s => numbered s n
  | .protocolError n s => numbered s n
  | .timeExpired n s => numbered s n
  | .interrupted _ n s => numbered s n
  | .noFileOrDirectory _ n s => numbered s n
  | .invalidArgument _ n s => numbered s n
  | .permissionDenied _ n s => numbered s n
  | .resourceExhausted _ n s => numbered s n
  | .inappropriateType _ n s => numbered s n
  | .noSuchThing _ n s => numbered s n
  | .unexpectedEof => "unexpected end of file"
  | .userError s => s
where
  numbered (s : String) (n : UInt32) : String := s ++ " (os error " ++ toString n ++ ")"

/-- The absolute path of an input that exists. -/
def absolutePath (path : String) : IO (Option String) := do
  try
    return some (← IO.FS.realPath path).toString
  catch _ => return none

/-- Reads an input. -/
def readInput (path : String) : IO (Except String Command.Input) := do
  try
    let body ← IO.FS.readBinFile path
    return .ok ⟨body.toList, ← absolutePath path⟩
  catch e => return .error (causeOf e)

def main (words : List String) : IO UInt32 := do
  let setting ← IO.getEnv Command.thresholdVariable
  let input ← match Command.Request.ofArguments words with
    | .ok (.run a) => readInput a.input
    | _ => pure (.error "")
  let report := Command.respond words setting fun _ => input
  for line in report.output do IO.println line
  for line in report.log do IO.eprintln line
  return report.status.toUInt32
