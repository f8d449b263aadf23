import Pagewalk.Command.Arguments
import Pagewalk.Command.Listing
import Pagewalk.Cycle
import Pagewalk.Event.Hub
import Pagewalk.Text.Quoted
import Pagewalk.Url.Parser

/-!
# Reports

What the program answers is a report: the lines of its output, the lines of its log, and a status. The input is
announced as a fetch on a bus with up to three listeners, in this order: one lists the events, one evaluates the
scripts when the page is open, one reads the page. The answers of the scripts follow the listing. The status is 0 if
all went well, 1 if the input could not be read or a script failed, and 2 if the command line was refused.
-/

namespace Pagewalk.Command

/-- What the program writes, and the status with which it ends. -/
structure Report where
  status : Nat
  output : List String
  log : List String
  deriving DecidableEq, Repr

/-- The input: its bytes and its absolute path, if that is known. -/
structure Input where
  body : List UInt8
  path : Option String
  deriving DecidableEq, Repr, Inhabited

/-! ### The log -/

/-- A line about the program itself. -/
def notice (text : String) : String := "hintline: " ++ text

/-- The method of the console by which a script writes a record. -/
def consoleMethod : Log.Level → String
  | .error => "error"
  | .warn => "warn"
  | .info => "log"
  | .debug => "debug"
  | .trace => "debug"

/-- The line of a record. -/
def recordLine (r : Log.Record) : String :=
  if r.origin = .console then "[console." ++ consoleMethod r.level ++ "] " ++ r.text
  else "[" ++ r.level.name ++ "][" ++ r.origin.name ++ "] " ++ r.text

/-- The name of the variable that sets the threshold of the log. -/
def thresholdVariable : String := "HINTLINE_LOG"

/-- The threshold that is used when none is set. -/
def defaultThreshold : Log.Threshold := some .warn

/-- The threshold of the log, from the command line or else from the variable, with what there is to say about it. -/
def chooseThreshold (a : Arguments) (setting : Option String) : Log.Threshold × List String :=
  match a.threshold, setting with
  | some t, _ => (t, [])
  | none, none => (defaultThreshold, [])
  | none, some value =>
    match readThreshold value with
    | .ok t => (t, [])
    | .error e => (defaultThreshold, [notice ("ignoring " ++ thresholdVariable ++ ": " ++ e.display)])

/-! ### The listeners -/

/-- A script with what came of it. -/
abbrev Evaluation := String × Except Error ScriptValue

/-- What the listeners remember. -/
structure Memory where
  listing : Listing := {}
  evaluations : Array Evaluation := #[]
  deriving Inhabited

/-- Lists every event. -/
def lister : Handler Memory := fun e => .change (fun m => { m with listing := m.listing.add e }) fun _ => .ok

/-- Evaluates scripts in a page, one after another, whatever comes of them. -/
def evaluateAll (page : OpenPage) : List String → Routine Memory
  | [] => .ok
  | s :: scripts =>
    .evaluate page s fun r =>
      .change (fun m => { m with evaluations := m.evaluations.push (s, r) }) fun _ => evaluateAll page scripts

/-- Evaluates the scripts when a page is open. -/
def evaluator (scripts : List String) : Handler Memory
  | .parseEnd _ _ page => evaluateAll page scripts
  | _ => .ok

/-! ### The run -/

/-- The fetch that the input stands for. -/
def fetchOf (a : Arguments) (i : Input) : Fetch :=
  let url := a.url.getD ((i.path.map Url.fileText).getD a.input)
  { resource := a.resource.getD url, url, mediaType := a.mediaType, raw := some i.body }

/-- Goes on if a listener was subscribed. -/
def orRefuse (next : Unit → Routine Memory) : Except Error ListenerId → Routine Memory
  | .ok _ => next ()
  | .error e => .fail e

/-- Subscribes the listener that evaluates scripts, if there are any. -/
def subscribeEvaluator (scripts : List String) (next : Unit → Routine Memory) : Routine Memory :=
  if scripts.isEmpty then next ()
  else .subscribe (.kind .parseEnd) (evaluator scripts) (orRefuse next)

/-- Subscribes the listeners and announces the fetch. -/
def routine (a : Arguments) (f : Fetch) : Routine Memory :=
  .subscribe .all lister <| orRefuse fun _ =>
    subscribeEvaluator a.scripts fun _ =>
      Cycle.attach { page := { strict := a.strict } } <| orRefuse fun _ =>
        .emit (.fetchEnd f) .done

/-- The line about a script. -/
def evaluationLine : Evaluation → String
  | (s, .ok v) => "eval " ++ Text.quote s ++ " => " ++ v.display
  | (s, .error e) => "eval " ++ Text.quote s ++ " failed: " ++ e.display

/-- A script went well. -/
def succeeded (e : Evaluation) : Bool :=
  match e.2 with
  | .ok _ => true
  | .error _ => false

/-- The bus before anything is subscribed. -/
def start : Hub Memory := ⟨{}, {}, {}⟩

/-- The report about an input. -/
def Report.ofInput (a : Arguments) (threshold : Log.Threshold) (i : Input) : Report :=
  let (outcome, hub) := start.perform (routine a (fetchOf a i))
  let log := (hub.session.records.toList.filter fun r => threshold.admits r.level).map recordLine
  let listing := hub.memory.listing.lines.toList
  match outcome with
  | .error e => ⟨1, listing, log ++ [notice e.display]⟩
  | .ok () =>
    let evaluations := hub.memory.evaluations.toList
    ⟨if evaluations.all succeeded then 0 else 1, listing ++ evaluations.map evaluationLine, log⟩

/-- The report about what a command line asks for. `setting` holds the threshold that the surroundings set, and
`open?` reads an input or says why it cannot be read. -/
def respond (words : List String) (setting : Option String) (open? : String → Except String Input) : Report :=
  match Request.ofArguments words with
  | .error e => ⟨2, [], [notice e.display, usage]⟩
  | .ok .help => ⟨0, [usage], []⟩
  | .ok (.run a) =>
    let (threshold, remarks) := chooseThreshold a setting
    match open? a.input with
    | .error cause => ⟨1, [], remarks ++ [notice (Error.readFailed a.input cause).display]⟩
    | .ok i =>
      let r := Report.ofInput a threshold i
      { r with log := remarks ++ r.log }

end Pagewalk.Command
