import Pagewalk.Text.Blank

/-!
# Errors

Every way an operation of the library can fail is a constructor of `Error`. `Error.code` is its stable name, a
family and a rest joined by a dot, and `Error.message` its text; both are written nowhere else.
-/

namespace Pagewalk

/-- A limit that a configuration sets wrongly. -/
inductive LimitFault where
  | documentZero
  | documentCeiling (ceiling : Nat)
  | scriptZero
  | runtimeZero
  deriving DecidableEq, Repr

/-- What can go wrong. -/
inductive Error where
  /-- A configuration holds a limit that is not allowed. -/
  | limit (fault : LimitFault)
  /-- A document is larger than the limit. -/
  | documentTooLarge (size limit : Nat)
  /-- A strict reading met a fault of markup; `first` is its text and `count` the number of all faults. -/
  | malformedMarkup (first : String) (count : Nat)
  /-- A strict reading met a label that selects no encoding. -/
  | unknownCharset (label : String)
  /-- A selector cannot be read; `cause` says why. -/
  | invalidSelector (selector cause : String)
  /-- A script is larger than the limit. -/
  | scriptTooLarge (size limit : Nat)
  /-- A window was asked to evaluate while it evaluates. -/
  | scriptReentrant
  /-- The realm of a window could not be made; `stage` says how far it came. -/
  | realmFailed (stage cause : String)
  /-- A script ended with an exception, a rejection or a runtime limit. -/
  | evaluationFailed (text : String)
  /-- A promise was still pending when the allowed timer callbacks had run. -/
  | timerBudgetExhausted (runs : Nat)
  /-- A promise was pending with nothing left to run. -/
  | scriptUnsettled
  /-- The allowed number of listeners is above the ceiling. -/
  | listenerCeiling (ceiling : Nat)
  /-- A bus has as many listeners as it may have. -/
  | tooManyListeners (limit : Nat)
  /-- A command line holds a flag that is not known. -/
  | unknownFlag (flag : String)
  /-- A command line holds a second input. -/
  | unexpectedArgument (argument : String)
  /-- A command line ends where the value of a flag is due. -/
  | missingValue (flag : String)
  /-- A command line names no input. -/
  | missingInput
  /-- A text is not the name of a log level. -/
  | invalidLogLevel (value : String)
  /-- An input cannot be read. -/
  | readFailed (path cause : String)
  /-- An operation met a case that it has no answer for and was broken off. -/
  | panic
  /-- A listener gave up with an error of its own. -/
  | reported (code message : String)
  deriving DecidableEq, Repr

namespace Error

/-- The stable name of an error. -/
def code : Error → String
  | limit .documentZero => "config.invalid_document_limit"
  | limit (.documentCeiling _) => "config.invalid_document_limit"
  | limit .scriptZero => "config.invalid_script_limit"
  | limit .runtimeZero => "config.invalid_script_limit"
  | documentTooLarge .. => "parse.document_too_large"
  | malformedMarkup .. => "parse.malformed_markup"
  | unknownCharset .. => "parse.unknown_charset"
  | invalidSelector .. => "dom.invalid_selector"
  | scriptTooLarge .. => "script.too_large"
  | scriptReentrant => "script.reentrant"
  | realmFailed .. => "script.bootstrap_failed"
  | evaluationFailed .. => "script.evaluation_failed"
  | timerBudgetExhausted .. => "script.timer_budget_exhausted"
  | scriptUnsettled => "script.unsettled"
  | listenerCeiling .. => "bus.max_listeners_too_large"
  | tooManyListeners .. => "bus.too_many_listeners"
  | unknownFlag .. => "cli.unknown_flag"
  | unexpectedArgument .. => "cli.unexpected_argument"
  | missingValue .. => "cli.missing_value"
  | missingInput => "cli.missing_input"
  | invalidLogLevel .. => "cli.invalid_log_level"
  | readFailed .. => "cli.read_failed"
  | panic => "panic"
  | reported code _ => code

/-- The text of an error. -/
def message : Error → String
  | limit .documentZero => "max_document_bytes must be greater than zero"
  | limit (.documentCeiling n) => "max_document_bytes must not exceed " ++ toString n
  | limit .scriptZero => "max_script_bytes must be greater than zero"
  | limit .runtimeZero => "runtime limits must be greater than zero"
  | documentTooLarge size most => "document is " ++ toString size ++ " bytes, limit is " ++ toString most
  | malformedMarkup first count => first ++ " (" ++ toString count ++ " errors total)"
  | unknownCharset label => "unsupported charset label `" ++ label ++ "`"
  | invalidSelector selector cause => "invalid selector `" ++ selector ++ "`: " ++ cause
  | scriptTooLarge size most => "script is " ++ toString size ++ " bytes, limit is " ++ toString most
  | scriptReentrant => "evaluate was called while another evaluation is running"
  | realmFailed stage cause => stage ++ ": " ++ cause
  | evaluationFailed text => text
  | timerBudgetExhausted runs => "promise still pending after " ++ toString runs ++ " timer callbacks"
  | scriptUnsettled => "promise can never settle: no pending jobs or timers"
  | listenerCeiling n => "max_listeners exceeds hard limit (" ++ toString n ++ ")"
  | tooManyListeners n => "listener limit " ++ toString n ++ " reached"
  | unknownFlag flag => "unknown flag `" ++ flag ++ "`"
  | unexpectedArgument argument => "unexpected argument `" ++ argument ++ "`"
  | missingValue flag => "missing value after " ++ flag
  | missingInput => "missing input file"
  | invalidLogLevel value =>
    "unsupported log level `" ++ value ++ "` (expected: off|error|warn|info|debug|trace)"
  | readFailed path cause => "cannot read " ++ path ++ ": " ++ cause
  | panic => ""
  | reported _ message => message

/-- The code and the text of an error on one line. -/
def display (e : Error) : String := e.code ++ ": " ++ e.message

/-- An error is in a family when its code is that family, a dot and a rest. -/
def isIn (e : Error) (family : String) : Bool :=
  match Text.splitOnce '.' e.code.toList with
  | some (first, _) => String.ofList first == family
  | none => false

end Error

/-- The result of an operation that answers nothing. -/
abbrev Outcome := Except Error Unit

end Pagewalk
