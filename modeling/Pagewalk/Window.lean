import Pagewalk.Script.Library.Inspection
import Pagewalk.Script.Setup

/-!
# Evaluating scripts in windows

A script is evaluated in the realm of a window. If it answers a promise, the jobs that are pending run, and then one
timer after another, each followed by the jobs it brings up, until the promise is settled, the allowed number of
timers has run, or nothing is left that could settle it. While a script runs its window is busy and evaluates no
other; other windows may evaluate, as when a watcher of the console asks them to. The documents of the evaluations
that are under way are active, and a script finds its own as the last of them.
-/

namespace Pagewalk

open Script Text

namespace ScriptValue

/-- The text of a value. -/
def display : ScriptValue → String
  | undefined => "undefined"
  | null => "null"
  | bool true => "true"
  | bool false => "false"
  | number x => Decimal.plain x
  | text s => s
  | json s => s

/-- The text that a value holds, if it holds one. -/
def text? : ScriptValue → Option String
  | text s => some s
  | json s => some s
  | _ => none

end ScriptValue

namespace Script

/-! ### Driving an evaluation -/

/-- The steps of an evaluation whose outcome is awaited: all jobs run, the evaluation is asked whether it has ended,
and a timer runs, if one is set. -/
structure Driving (μ : Type → Type) where
  runJobs : μ Unit
  isSettled : μ Bool
  runTimer : μ Bool

/-- Drives an evaluation until it has ended, with so many timers left to run after so many that ran. Jobs run before
each question, and a timer runs only while the evaluation is pending; gives the number of timers that ran. -/
def Driving.drive {μ : Type → Type} [Monad μ] (d : Driving μ) : (left runs : Nat) → μ (Except Error Nat)
  | left, runs => do
    d.runJobs
    if ← d.isSettled then return .ok runs
    match left with
    | 0 => return .error (.timerBudgetExhausted runs)
    | left + 1 => if ← d.runTimer then d.drive left (runs + 1) else return .error .scriptUnsettled

/-! ### The steps -/

/-- So many jobs may run before scripts are given up. -/
def jobBound : Nat := 10000000

/-- Runs a step as the window itself does it, beside every script. -/
def byWindow {α : Type} (step : Run α) : Run α := atDepth 1 2 step

/-- A part of the record of the evaluation. -/
def Kernel.recorded (k : Kernel) (part : Name) : Run Value :=
  byWindow do k.propertyOf (← k.global evaluationKey) part

/-- The steps by which a window drives an evaluation. -/
def Kernel.driving (k : Kernel) : Driving Run where
  runJobs := atDepth 0 0 (k.runJobs jobBound)
  isSettled := return (← k.recorded "settled").isTruthy
  runTimer := return (← byWindow (k.callGlobal "__hl_run_next_timer" [])).isTruthy

/-- The answer of a value. -/
def Kernel.answer (k : Kernel) (v : Value) : Run ScriptValue := do
  match v with
  | .undefined => return .undefined
  | .null => return .null
  | .bool b => return .bool b
  | .number x => return .number x
  | .text s => return .text s.toText
  | .object r =>
    let text (f : Name) : Run String := do
      let s ← byWindow (k.callGlobal f [← k.recorded "value"])
      return (← atDepth 0 0 (k.toText s)).toText
    if (← object r).isCallable then return .text (← text "String") else return .json (← text "__hl_json")

/-- The outcome of an evaluation that has ended. -/
def Kernel.outcome (k : Kernel) : Run (Except Error ScriptValue) := do
  if (← k.recorded "ok").isTruthy then return .ok (← k.answer (← k.recorded "value"))
  let message ← byWindow do k.callGlobal "String" [← k.recorded "error"]
  return .error (.evaluationFailed (← atDepth 0 0 (k.toText message)).toText)

/-- What evaluates scripts: a kernel, and how many timers may run until an evaluation has ended. -/
structure Evaluator extends Kernel where
  maxTimerRuns : Nat

/-- Evaluates a script in the running realm. -/
def Evaluator.evaluate (k : Evaluator) (source : CodeUnits) : Run (Except Error ScriptValue) := do
  -- What the call answers is not looked at: how the script stands is read from its record.
  discard <| byWindow (k.callGlobal "__hl_begin" [.text source])
  match ← k.driving.drive k.maxTimerRuns 0 with
  | .error e => return .error e
  | .ok runs =>
    if runs > 0 then
      note ⟨.debug, .window, "script settled after " ++ toString runs ++ " timer callbacks"⟩
    k.outcome

/-- Evaluates a script; whatever breaks it off is an error. -/
def Evaluator.evaluateWhole (k : Evaluator) (source : CodeUnits) : Run (Except Error ScriptValue) :=
  tryCatch (k.evaluate source) fun
    | .thrown v => return .error (.evaluationFailed (← shownText v))
    | .limit text => return .error (.evaluationFailed ("RuntimeLimit: " ++ text))
    | .broken => return .error .panic

/-- What keeps a realm from being made: the surroundings, the nodes or the document need more than the limits
allow. -/
def realmFault? (config : ScriptConfig) : Option Error :=
  let fault (stage limit : String) : Option Error := some (.realmFailed stage ("RuntimeLimit: exceeded maximum " ++ limit))
  let calls := "number of recursive calls"
  let stack := "call stack length"
  if config.recursionLimit ≤ 2 then fault "environment" calls
  else if config.stackLimit ≤ 11 then fault "environment" stack
  else if config.recursionLimit ≤ 3 then fault "dom" calls
  else none

end Script

namespace Window

/-- The context in which the scripts of a window run. -/
def context (x : Window) (observe : Observer) : Context := ⟨x.page, x.config.toRuntimeLimits, 1, 2, [], observe⟩

/-- What evaluates the scripts of a window. -/
def kernel (x : Window) : Evaluator := ⟨Script.kernel x.config.levels, x.config.maxTimerRuns⟩

end Window

namespace Session

/-- Opens a window on a document. -/
def openWindow (s : Session) (d : Document) (url : Option Url) (config : ScriptConfig) : WindowId × Session :=
  (s.windows.size, { s with windows := s.windows.push ⟨d.numbered, url, config, .absent⟩ })

/-- Changes how the realm of a window stands. -/
def setRealm (s : Session) (w : WindowId) (r : RealmState) : Session :=
  { s with windows := s.windows.modify w fun x => { x with realm := r } }

/-- The record about a realm that was made. -/
def realmRecord (x : Window) : Log.Record :=
  ⟨.debug, .window, "created script realm for " ++ (x.url.elim "about:blank" Url.text) ++ " (" ++
    toString x.page.table.size ++ " nodes)"⟩

/-- Runs steps of a script in a realm that was taken out of its window; the window is busy meanwhile. -/
def runIn {α : Type} (l : Finding) (observe : Observer) (s : Session) (w : WindowId) (x : Window) (m : Realm)
    (steps : Evaluator → Run (Except Error α)) : Except Error α × Session :=
  match (steps x.kernel).act l (x.context observe) ⟨m, s.setRealm w .busy⟩ with
  | .ok r world => (r, world.session.setRealm w (.idle world.realm))
  | .error _ world => (.error .panic, world.session.setRealm w (.idle world.realm))

/-- Evaluates a script in a window whose document has become active. -/
def evaluateActive (l : Finding) (observe : Observer) (s : Session) (w : WindowId) (x : Window) (source : String) :
    Except Error ScriptValue × Session :=
  match x.realm with
  | .busy => (.error .scriptReentrant, s)
  | .idle m => runIn l observe s w x m fun k => k.evaluateWhole (handedOver source)
  | .absent =>
    match realmFault? x.config with
    | some e => (.error e, s)
    | none =>
      -- The realm stays with its window even if what begins it breaks off.
      runIn l observe s w x .bare fun k => do
        k.enterDocument x.page.document x.url
        Script.note (realmRecord x)
        k.evaluateWhole (handedOver source)

/-- The document of an evaluation that begins is active. -/
def enter (s : Session) (d : NumberedDocument) : Session := { s with active := d :: s.active }

/-- The document of the evaluation that began last is active no longer. -/
def leave (s : Session) : Session := { s with active := s.active.tail }

/-- Evaluates a script in a window, with a watcher of the console; the script finds its document in this way. -/
def evaluateBy (l : Finding) (observe : Observer) (s : Session) (w : WindowId) (source : String) :
    Except Error ScriptValue × Session :=
  match s.windows[w]? with
  | none => (.error .panic, s)
  | some x =>
    let size := Utf8.size source
    if size > x.config.maxBytes then (.error (.scriptTooLarge size x.config.maxBytes), s)
    else
      let (answer, s) := evaluateActive l observe (s.enter x.page) w x source
      (answer, s.leave)

/-- Evaluates a script in a window, with a watcher of the console. -/
def evaluate (observe : Observer) (s : Session) (w : WindowId) (source : String) :
    Except Error ScriptValue × Session := evaluateBy .active observe s w source

end Session

/-- A watcher that evaluates a script in a window at each line of the console, and keeps the answers. What that
script writes to the console is not watched. -/
def Observer.evaluating (w : WindowId) (source : String) : Observer := fun r s =>
  if r.origin == .console then
    let (answer, s) := s.evaluate .quiet w source
    { s with nested := s.nested.push answer }
  else s

/-- A short description of a window. -/
def Window.described (x : Window) : String :=
  let url := match x.url with
    | none => "None"
    | some u => "Some(" ++ Text.quote u.text ++ ")"
  let realm := match x.realm with
    | .absent => "Some(false)"
    | .idle _ => "Some(true)"
    | .busy => "None"
  "Window \x7b url: " ++ url ++ ", config: " ++ x.config.described ++ ", realm: " ++ realm ++ ", .. \x7d"

end Pagewalk
