import Pagewalk.Text.Blank

/-!
# Log records

A record has a level, the part of the program that wrote it, and a text. A threshold admits the records at its
level and the graver ones; the threshold that admits none is called off.
-/

namespace Pagewalk.Log

/-- How grave a record is, gravest first. -/
inductive Level where
  | error
  | warn
  | info
  | debug
  | trace
  deriving DecidableEq, Repr

/-- The rank of a level, gravest least. -/
def Level.rank : Level → Nat
  | .error => 1
  | .warn => 2
  | .info => 3
  | .debug => 4
  | .trace => 5

/-- The name of a level in capitals. -/
def Level.name : Level → String
  | .error => "ERROR"
  | .warn => "WARN"
  | .info => "INFO"
  | .debug => "DEBUG"
  | .trace => "TRACE"

/-- Which records are shown: none, or those at a level and the graver ones. -/
abbrev Threshold := Option Level

/-- The name of a threshold in capitals. -/
def Threshold.name (t : Threshold) : String := (t.map Level.name).getD "OFF"

/-- Every threshold, least first. -/
def Threshold.all : List Threshold :=
  [none, some .error, some .warn, some .info, some .debug, some .trace]

/-- A threshold admits the levels up to its own. -/
def Threshold.admits (t : Threshold) (l : Level) : Bool := (t.map fun u => decide (l.rank ≤ u.rank)).getD false

/-- The threshold with a name; blanks around it and the case of ASCII letters do not count. -/
def Threshold.ofName? (s : String) : Option Threshold :=
  Threshold.all.find? fun t => Text.sameLetters t.name (Text.trim s)

/-- The part of the program that writes a record. -/
inductive Origin where
  | charset
  | document
  | window
  | scriptDocument
  | bus
  | cycle
  | walk
  | console
  deriving DecidableEq, Repr

/-- The name of a part in a log line. -/
def Origin.name : Origin → String
  | .charset => "hl_html::decode"
  | .document => "hl_html"
  | .window => "hl_js"
  | .scriptDocument => "hl_js::host"
  | .bus => "hl_events"
  | .cycle => "hl_parser_html"
  | .walk => "hl_parser_html::traverse"
  | .console => "js-console"

/-- One entry of the log. -/
structure Record where
  level : Level
  origin : Origin
  text : String
  deriving DecidableEq, Repr

end Pagewalk.Log
