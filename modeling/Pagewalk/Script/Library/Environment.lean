import Pagewalk.Script.Library.Promises

/-!
# The surroundings of a script

The console, the timers, the small objects of a window, and the functions by which a window evaluates a script and
reads its outcome. Timers run on a clock of their own, which stands still while scripts run.
-/

namespace Pagewalk.Script

open Text

/-! ### Texts of values -/

/-- The written form of a value, as the realm's `JSON` gives it; where there is none, or it cannot be had, the text of
the value. -/
def Kernel.dataOrText (k : Kernel) (v : Value) : Run Value := do
  let data ← catching (do k.invoke (← k.global "JSON") "stringify" [v]) fun _ => return .undefined
  match data with
  | .text _ => return data
  | _ => k.callGlobal "String" [v]

/-- The form in which a value is shown on the console: a text as it is, anything else as data. -/
def Kernel.shown (k : Kernel) (v : Value) : Run Value :=
  match v with
  | .text _ => return v
  | _ => k.dataOrText v

/-- What is said of a thrown value: an error by its name and its message, anything else by its text. -/
def Kernel.describe (k : Kernel) (v : Value) : Run Value :=
  asCall 1 1 do
    let isError ← match v with
      | .object r => if (← object r).isCallable then pure false else hasProperty r messageKey
      | _ => pure false
    if !isError then return ← k.callGlobal "String" [v]
    let start ←
      if (← k.propertyOf v nameKey).isTruthy then k.binary .add (← k.propertyOf v nameKey) (.string ": ")
      else pure .emptyText
    k.binary .add start (← holding 1 (k.propertyOf v messageKey))

/-! ### The console -/

/-- The level of the log for a level of the console. -/
def consoleLevel (level : String) : Log.Level :=
  match level with
  | "error" => .error
  | "warn" => .warn
  | "debug" => .debug
  | _ => .info

/-- Writes a line to the console, which may be watched. -/
def Kernel.consoleWrite (k : Kernel) (args : List Value) : Run Value := do
  let text (i : Nat) : Run String := do
    match args[i]? with
    | some v => return (← k.toText v).toText
    | none => return ""
  let level ← text 0
  let r : Log.Record := ⟨consoleLevel level, .console, ← text 1⟩
  note r
  return .undefined

/-- Writes to the console through the object that is there for it. -/
def Kernel.writeTo (k : Kernel) (level : String) (message : Run Value) : Run Unit := do
  discard <| k.invoke (.object Intrinsic.writer.ref) "write" [.string level, ← holding 3 message]

/-- Writes values to the console with blanks between them. -/
def Kernel.console (k : Kernel) (level : String) (args : List Value) : Run Unit := do
  let parts ← makeArray []
  for v in args do
    let shown ← holding 2 (asCall 1 3 (k.shown v))
    discard <| k.invoke parts "push" [shown]
    countIteration
  k.writeTo level (k.invoke parts "join" [.string " "])

/-- The key of the outermost scope in itself. -/
def globalKey : Name := "globalThis"

/-! ### Timers -/

/-- Sets a timer: what it calls, after how long, and with which arguments. What is no function is evaluated as a
text. -/
def Kernel.schedule (k : Kernel) (callback delay args : Value) (repeats : Bool) : Run Value :=
  asCall 4 7 do
    let task ←
      if ← isCallable callback then pure callback
      else
        match ← k.callGlobal "String" [callback] with
        | .text source => makeNative (.environment (.perform source)) "cb" 0
        | v => makeNative (.environment (.perform (textOfSimple v))) "cb" 0
    let wait ← k.toNumber (← k.callGlobal "Number" [delay])
    let wait := if wait > 0.0 then wait else 0.0
    let id := (← realm).timers.nextId
    onTimers (.schedule ⟨task, args⟩ wait repeats)
    return .nat id

/-- The arguments from the third on, as the realm's arrays cut them out. -/
def Kernel.laterArguments (k : Kernel) (args : List Value) : Run Value := do
  let arrays ← k.propertyOf (← k.global "Array") parentKey
  k.invoke (← k.propertyOf arrays "slice") "call" [.object (← strictArguments args), .number 2.0]

/-- Takes back the timer of a number. Timers are asked in the order in which they were set. -/
def Kernel.cancel (k : Kernel) (v : Value) : Run Unit := do
  let wanted ← k.callGlobal "Number" [v]
  let timers := (← realm).timers
  let isWanted (m : Timer Float Task) : Bool := (Value.nat m.id).strictEq wanted
  match timers.pending.findIdx? isWanted, timers.pending.find? isWanted with
  | some i, some m =>
    countIterations i
    onTimers (.cancel m.id)
  | _, _ => countIterations timers.pending.length

/-- Runs the timer that is due first; false if none is set. What its task throws goes to the console. -/
def Kernel.runTimer (k : Kernel) : Run Value := do
  let timers := (← realm).timers
  countIterations (timers.pending.length - 1)
  match timers.fire? with
  | none => return .bool false
  | some (task, _) =>
    onTimers .fire
    let call : Run Unit := do
      let apply ← k.propertyOf task.callback "apply"
      discard <| k.apply apply task.callback [← k.global globalKey, task.args]
    catching call fun e =>
      k.writeTo "error" do k.binary .add (.string "Uncaught ") (← holding 1 (k.describe e))
    return .bool true

/-! ### Evaluations -/

/-- The key of the record of an evaluation in the outermost scope. -/
def evaluationKey : Name := "__hl_eval"

/-- The record of an evaluation that has not ended. -/
def pendingRecord : Obj :=
  let set (key : Name) (v : Value) (o : Obj) : Obj := o.setProperty key (.plain v)
  set "error" .emptyText <| set "value" .undefined <| set "ok" (.bool false) <| set "settled" (.bool false) <|
    .ofShape (some Intrinsic.objects.ref) .plain

/-- Where the function stands that settles a record, as a success or not. -/
def settler (record : Ref) (ok : Bool) : Ref := if ok then record + 2 else record + 4

/-- The function that settles a record. -/
def settlerObject (record : Ref) (ok : Bool) : Obj :=
  makerObject (nativeObject (.environment (.settle record ok)) "" 1 true) (settler record ok - 1)

/-- A record with the functions that settle it, each behind the object from which what it makes inherits. -/
def recordObjects (record : Ref) : Array Obj :=
  #[pendingRecord, parentObject (settler record true), settlerObject record true,
    parentObject (settler record false), settlerObject record false]

theorem shape_settlerObject (record : Ref) (ok : Bool) :
    (settlerObject record ok).shape = .native (.environment (.settle record ok)) true := by
  rw [settlerObject, makerObject, shape_setProperty, nativeObject, shape_functionObject]

theorem shape_parentObject (f : Ref) : (parentObject f).shape = .plain := by
  rw [parentObject, shape_setProperty]
  rfl

theorem shape_pendingRecord : pendingRecord.shape = .plain := by
  simp only [pendingRecord, shape_setProperty]
  rfl

/-- The functions that settle a record stand behind it. -/
theorem settles_recordObjects {record i f : Ref} {ok : Bool}
    (h : ((recordObjects record)[i]?.bind fun o => o.shape.settles?) = some (f, ok)) :
    f = record ∧ record + i = settler record ok := by
  match i with
  | 0 =>
    change pendingRecord.shape.settles? = _ at h
    rw [shape_pendingRecord] at h
    cases h
  | 1 =>
    change (parentObject _).shape.settles? = _ at h
    rw [shape_parentObject] at h
    cases h
  | 2 =>
    change (settlerObject _ _).shape.settles? = _ at h
    rw [shape_settlerObject] at h
    cases h
    exact ⟨rfl, rfl⟩
  | 3 =>
    change (parentObject _).shape.settles? = _ at h
    rw [shape_parentObject] at h
    cases h
  | 4 =>
    change (settlerObject _ _).shape.settles? = _ at h
    rw [shape_settlerObject] at h
    cases h
    exact ⟨rfl, rfl⟩
  | i + 5 => cases h

theorem lt_settler (record : Ref) (ok : Bool) : record < settler record ok := by
  cases ok <;> simp [settler]

theorem upholds_recordObjects (m : Realm) :
    m.Upholds { m with objects := m.objects ++ recordObjects m.objects.size } where
  size := by
    rw [Array.size_append]
    exact Nat.le_add_right _ _
  settles f hf := by
    rw [Realm.settles?, Realm.settles?, Array.getElem?_append_left hf]
  fresh f record ok outside some := by
    rw [Realm.settles?, Array.getElem?_append_right outside] at some
    obtain ⟨rfl, place⟩ := settles_recordObjects some
    refine ⟨Nat.le_refl _, ?_⟩
    rw [← Nat.add_sub_of_le outside, place]
    exact lt_settler _ _
  timers := rfl

/-- Opens a record for an evaluation. -/
def openRecord : Run Ref := do
  let record := (← realm).objects.size
  modifyRealm (fun m => { m with objects := m.objects ++ recordObjects m.objects.size }) upholds_recordObjects
  return record

/-- Enters something into a record, whose parts are set like any properties if they are not as they were made. -/
def Kernel.enter (k : Kernel) (record : Ref) (e : Entry) : Run Unit := do
  if (← object record).isRecord then enterPlain record e
  else
    for (part, v) in e.parts do
      k.put record part v false

/-- Records how an evaluation ended: with a value, or with what was thrown. -/
def Kernel.settle (k : Kernel) (record : Ref) (ok : Bool) (v : Value) : Run Unit := do
  if ok then k.enter record (.success v)
  else
    k.enter record .failure
    k.enter record (.reason (← holding 2 (k.describe v)))

/-- A value has a `then` that is a function. -/
def Kernel.isThenable (k : Kernel) (v : Value) : Run Bool := do
  match v with
  | .object _ => isCallable (← k.propertyOf v "then")
  | _ => return false

/-- Begins an evaluation: runs the script and records its answer, or waits for the promise that it answers. Where the
record is to be found is written to the scope that scripts have for the outermost. -/
def Kernel.begin (k : Kernel) (source : Value) : Run Unit := do
  let state ← openRecord
  k.putOf (← k.global globalKey) evaluationKey (.object state) false
  match ← catching (Except.ok <$> k.callGlobal "eval" [source]) (fun e => return Except.error e) with
  | .error e => k.settle state false e
  | .ok v =>
    if ← k.isThenable v then
      let p ← k.invoke (← k.global "Promise") "resolve" [v]
      discard <| k.invoke p "then" [.object (settler state true), .object (settler state false)]
    else k.settle state true v

/-! ### Small objects -/

/-- The answer about a media query: it never matches. -/
def Kernel.matchMedia (k : Kernel) (query : Value) : Run Value := do
  let r ← makeObject
  let media ← holding 2 do k.callGlobal "String" [if query.isTruthy then query else .emptyText]
  defineProperty r "media" (.plain media)
  defineProperty r "matches" (.plain (.bool false))
  defineProperty r "onchange" (.plain .null)
  for name in ["addListener", "removeListener", "addEventListener", "removeEventListener"] do
    defineProperty r (CodeUnits.ofString name) (.plain (← makeIdle name))
  defineProperty r "dispatchEvent" (.plain (← makeNative (.environment .agree) "dispatchEvent" 0))
  return .object r

/-- What the functions of the surroundings do. -/
def Kernel.environmentFunction (k : Kernel) (f : EnvironmentFunction) (args : List Value) : Run Value := do
  let first := argument args 0
  match f with
  | .idle => return .undefined
  | .agree => return .bool true
  | .noItems => makeArray []
  | .console level =>
    k.console level args
    return .undefined
  | .setTimer repeats => do
    let later ← holding 4 (k.laterArguments args)
    k.schedule first (argument args 1) later repeats
  | .clearTimer =>
    k.cancel first
    return .undefined
  | .animationFrame =>
    k.schedule (← makeNative (.environment (.frame first)) "" 0) (.number 16.0) (← makeArray []) false
  | .frame g =>
    if ← isCallable g then discard <| k.apply g .undefined [.number (← realm).timers.now]
    return .undefined
  | .perform source =>
    discard <| k.callGlobal "eval" [.text source]
    return .undefined
  | .microtask =>
    let p ← k.invoke (← k.global "Promise") "resolve" []
    discard <| k.invoke p "then" [← makeNative (.environment (.invoke first)) "" 0]
    return .undefined
  | .invoke g =>
    discard <| k.apply g .undefined []
    return .undefined
  | .now => return .number (← realm).timers.now
  | .matchMedia => k.matchMedia first
  | .runTimer => k.runTimer
  | .begin =>
    k.begin first
    return .undefined
  | .settle state ok =>
    k.settle state ok first
    return .undefined
  | .dataText => k.dataOrText first

end Pagewalk.Script
