import Pagewalk.Error
import Pagewalk.Log

/-!
# Arguments of the command line

A command line is read word by word. A word is a question for help, the flag for strict reading, a setting that takes
the word after it as its value, whatever that is, or the input; any other word that begins with two dashes is
refused. Of a setting that is given twice the later counts, but all scripts are kept.
-/

namespace Pagewalk.Command

/-- What the program is asked to do with an input. -/
structure Arguments where
  input : String
  resource : Option String
  url : Option String
  mediaType : String
  scripts : List String
  strict : Bool
  threshold : Option Log.Threshold
  deriving DecidableEq, Repr

/-- What a command line asks for. -/
inductive Request where
  | help
  | run (a : Arguments)
  deriving DecidableEq, Repr

/-- How the program is called. -/
def usage : String :=
  "usage: hintline <file.html> [--resource <id>] [--url <url>] [--media-type <type>] [--eval <script>]... " ++
    "[--strict] [--log-level <level>]"

/-- The settings, which take a value. -/
inductive Setting where
  | resource
  | url
  | mediaType
  | script
  | threshold
  deriving DecidableEq, Repr

/-- Every setting. -/
def Setting.all : List Setting := [resource, url, mediaType, script, threshold]

/-- The flag of a setting. -/
def Setting.flag : Setting → String
  | resource => "--resource"
  | url => "--url"
  | mediaType => "--media-type"
  | script => "--eval"
  | threshold => "--log-level"

/-- The setting with a flag. -/
def Setting.ofFlag? (s : String) : Option Setting := all.find? fun t => t.flag == s

/-- What a word is where no value is due. -/
inductive Word where
  | help
  | strict
  | setting (s : Setting)
  | unknown
  | input
  deriving DecidableEq, Repr

/-- What a word is where no value is due. -/
def Word.of (s : String) : Word :=
  if s == "-h" || s == "--help" then help
  else if s == "--strict" then strict
  else
    match Setting.ofFlag? s with
    | some t => setting t
    | none => if s.startsWith "--" then unknown else input

/-- The threshold that a text names. -/
def readThreshold (value : String) : Except Error Log.Threshold :=
  match Log.Threshold.ofName? value with
  | some t => .ok t
  | none => .error (.invalidLogLevel value)

/-- What was read of a command line so far. -/
structure Draft where
  input : Option String := none
  resource : Option String := none
  url : Option String := none
  mediaType : Option String := none
  scripts : List String := []
  strict : Bool := false
  threshold : Option Log.Threshold := none
  deriving DecidableEq, Repr

namespace Draft

/-- Gives a setting a value. -/
def set (d : Draft) (s : Setting) (value : String) : Except Error Draft :=
  match s with
  | .resource => .ok { d with resource := some value }
  | .url => .ok { d with url := some value }
  | .mediaType => .ok { d with mediaType := some value }
  | .script => .ok { d with scripts := d.scripts ++ [value] }
  | .threshold => (readThreshold value).map fun t => { d with threshold := some t }

/-- Takes the input, which may be given once. -/
def take (d : Draft) (word : String) : Except Error Draft :=
  match d.input with
  | none => .ok { d with input := some word }
  | some _ => .error (.unexpectedArgument word)

/-- The request of a command line that was read to its end. -/
def finish (d : Draft) : Except Error Request :=
  match d.input with
  | none => .error .missingInput
  | some input =>
    .ok (.run
      ⟨input, d.resource, d.url, d.mediaType.getD "text/html", d.scripts, d.strict, d.threshold⟩)

/-- Reads the rest of a command line. -/
def read (d : Draft) : List String → Except Error Request
  | [] => d.finish
  | word :: rest =>
    match Word.of word with
    | .help => .ok .help
    | .strict => read { d with strict := true } rest
    | .unknown => .error (.unknownFlag word)
    | .input =>
      match d.take word with
      | .ok d => read d rest
      | .error e => .error e
    | .setting s =>
      match rest with
      | [] => .error (.missingValue word)
      | value :: rest =>
        match d.set s value with
        | .ok d => read d rest
        | .error e => .error e

end Draft

/-- Reads a command line. -/
def Request.ofArguments (words : List String) : Except Error Request := Draft.read {} words

theorem Setting.ofFlag?_flag (s : Setting) : ofFlag? s.flag = some s := by cases s <;> decide

end Pagewalk.Command
