import Pagewalk.Script.Iteration

/-!
# Promises

A promise is pending until it is fulfilled with a value or rejected with a reason, once. What waits for it runs as
a job of its own, after the script that settled it and in the order in which jobs came up. A promise that is
resolved with something that has a `then` follows that. The functions that make promises do so by the maker on which
they are called; it need not be the realm's own.
-/

namespace Pagewalk.Script

open Text

/-! ### Jobs -/

/-- Puts a job after all others. -/
def enqueue (j : Job) : Run Unit := modifyRealm fun m => { m with laterJobs := j :: m.laterJobs }

/-- Takes the first job. -/
def nextJob? : Run (Option Job) := do
  let m ← realm
  match m.jobs with
  | j :: js =>
    modifyRealm fun m => { m with jobs := js }
    return some j
  | [] =>
    -- Jobs that came up later are kept last first, and turned round when all before them have run.
    match m.laterJobs.reverse with
    | j :: js =>
      modifyRealm fun m => { m with jobs := js, laterJobs := [] }
      return some j
    | [] => return none

/-- The job of a reaction to a settled promise. -/
def reactionJob (ok : Bool) (v : Value) (r : Reaction) : Job :=
  .react (if ok then r.onFulfilled else r.onRejected) ok r.derived v

/-! ### The realm's own promises -/

/-- Makes a pending promise. -/
def newPromise : Run Ref := allocate (.ofShape (some Intrinsic.promises.ref) (.promise (.pending [])))

/-- Settles a promise; what waited for it becomes jobs. -/
def settlePromise (p : Ref) (ok : Bool) (v : Value) : Run Unit := do
  match (← object p).shape with
  | .promise (.pending reactions) =>
    let settled : PromiseState := if ok then .fulfilled v else .rejected v
    modifyObject p (·.withPromise settled) (settles_withPromise · settled)
    for r in reactions do
      enqueue (reactionJob ok v r)
  | _ => return ()

/-- The functions that settle a promise; only the first call of either counts. -/
def settlers (p : Ref) : Run (Value × Value) := do
  let cell ← newCell 0
  return (← makeNative (.promise (.settle p cell true)) "" 1, ← makeNative (.promise (.settle p cell false)) "" 1)

/-- Runs a step; a thrown value goes to a handler, and a limit, which is no value, breaks off. -/
def guarded {α : Type} (body : Run α) (handler : Value → Run α) : Run α :=
  tryCatch body fun
    | .thrown v => handler v
    | _ => throw .broken

/-- Resolves a promise: with a value at once, with something that has a `then` by following it. -/
def Kernel.resolvePromise (k : Kernel) (p : Ref) (v : Value) : Run Unit := do
  match v with
  | .object r =>
    if r = p then settlePromise p false (← makeError .type "SameValue(resolution, promise) is true")
    else
      let action ← guarded (Except.ok <$> k.property r "then") fun e => return Except.error e
      match action with
      | .error e => settlePromise p false e
      -- What has a `then` is followed in a job of its own, even if it is settled already.
      | .ok f => if ← isCallable f then enqueue (.follow p v f) else settlePromise p true v
  | v => settlePromise p true v

/-- Lets functions wait for a promise. -/
def await (p : Ref) (r : Reaction) : Run Unit := do
  match (← object p).shape with
  | .promise (.pending rs) =>
    let waiting : PromiseState := .pending (rs ++ [r])
    modifyObject p (·.withPromise waiting) (settles_withPromise · waiting)
  | .promise (.fulfilled v) => enqueue (reactionJob true v r)
  | .promise (.rejected v) => enqueue (reactionJob false v r)
  | _ => return ()

/-- Makes a promise that an executor settles. -/
def Kernel.makePromise (k : Kernel) (executor : Value) : Run Value := do
  if !(← isCallable executor) then typeFault "Promise executor is not callable"
  let p ← newPromise
  let (ok, no) ← settlers p
  discard <| guarded (k.apply executor .undefined [ok, no]) fun e => k.apply no .undefined [e]
  return .object p

/-! ### Promises of any maker -/

/-- The key under which the function that resolves is kept. -/
def resolveKey : Name := "resolve"

/-- The key under which the function that rejects is kept. -/
def rejectKey : Name := "reject"

/-- The maker of the realm's own promises. -/
def ownMaker : Value := .object Intrinsic.promiseMaker.ref

/-- A value can make objects; one that is bound makes what its target makes, through at most so many. -/
def isMaker : Nat → Value → Run Bool
  | 0, _ => return false
  | n + 1, v => do
    match v with
    | .object r =>
      match (← object r).shape with
      | .closure f .. => return !f.traits.isArrow && !f.traits.isMethod
      | .native _ isMaker => return isMaker
      | .bound target .. => isMaker n target
      | _ => return false
    | _ => return false

namespace Capability

/-- The promise. -/
def promise : Capability → Value
  | own p => .object p
  | made p .. => p

/-- Makes a promise by a maker. -/
def new (k : Kernel) (maker : Value) : Run Capability := do
  if maker.strictEq ownMaker then return own (← newPromise)
  if !(← isMaker ((← realm).objects.size + 1) maker) then typeFault "PromiseCapability: expected constructor"
  let holder ← allocate (.ofShape none .plain)
  let p ← k.construct maker [← makeNative (.promise (.receive holder)) "" 2]
  let resolve ← k.property holder resolveKey
  if !(← isCallable resolve) then typeFault "promiseCapability.[[Resolve]] is not callable"
  let reject ← k.property holder rejectKey
  if !(← isCallable reject) then typeFault "promiseCapability.[[Reject]] is not callable"
  return made p resolve reject

/-- Resolves the promise. -/
def resolveWith (c : Capability) (k : Kernel) (v : Value) : Run Unit :=
  match c with
  | own p => k.resolvePromise p v
  | made _ resolve _ => discard <| k.apply resolve .undefined [v]

/-- Rejects the promise. -/
def rejectWith (c : Capability) (k : Kernel) (v : Value) : Run Unit :=
  match c with
  | own p => settlePromise p false v
  | made _ _ reject => discard <| k.apply reject .undefined [v]

/-- The functions that resolve and reject the promise. -/
def functions (c : Capability) : Run (Value × Value) :=
  match c with
  | own p => settlers p
  | made _ resolve reject => return (resolve, reject)

/-- Settles the promise by what a step throws, if it throws. -/
def guard (c : Capability) (k : Kernel) (step : Run Unit) : Run Value := do
  tryCatch step fun
    | .thrown e => c.rejectWith k e
    | other => throw other
  return c.promise

end Capability

/-- Keeps a function that settles what a maker makes; it may be given once. -/
def keepSettler (holder : Ref) (key : Name) (name : String) (f : Value) : Run Unit := do
  match (← object holder).own? key with
  | some (.data (.object _) ..) => typeFault ("promiseCapability.[[" ++ name ++ "]] is not undefined")
  | _ => defineProperty holder key (.plain f)

/-- The promise of a maker that stands for a value: the value itself if it is one. -/
def Kernel.promiseOf (k : Kernel) (maker v : Value) : Run Value := do
  let isOwn ← match v with
    | .object r =>
      match (← object r).shape with
      | .promise _ => pure ((← k.property r "constructor").strictEq maker)
      | _ => pure false
    | _ => pure false
  if isOwn then return v
  let c ← Capability.new k maker
  c.resolveWith k v
  return c.promise

/-- The maker of what is derived from a promise. -/
def Kernel.makerOf (k : Kernel) (p : Ref) : Run Value := do
  match ← k.property p "constructor" with
  | .undefined => return ownMaker
  | .object _ => return ownMaker
  | _ => typeFault "property 'constructor' is not an object"

/-- A value if it is a function. -/
def function? (v : Value) : Run (Option Value) := return if ← isCallable v then some v else none

/-- The promise of what functions make of a promise. -/
def Kernel.thenOf (k : Kernel) (p : Ref) (onFulfilled onRejected : Value) : Run Value := do
  let derived ← Capability.new k (← k.makerOf p)
  await p ⟨← function? onFulfilled, ← function? onRejected, some derived⟩
  return derived.promise

/-! ### Running jobs -/

/-- Settles a promise by what a step answers or throws. -/
def Kernel.settleBy (k : Kernel) (c : Option Capability) (step : Run Value) : Run Unit := do
  let outcome ← guarded (Except.ok <$> step) fun e => return Except.error e
  match c, outcome with
  | none, _ => return ()
  | some c, .ok v => c.resolveWith k v
  | some c, .error e => c.rejectWith k e

/-- Runs a job. What is thrown out of it is lost. -/
def Kernel.runJob (k : Kernel) (j : Job) : Run Unit := do
  match j with
  | .react (some f) _ derived v => k.settleBy derived (k.apply f .undefined [v])
  | .react none true (some c) v => c.resolveWith k v
  | .react none false (some c) v => c.rejectWith k v
  | .react none _ none _ => return ()
  | .follow p thenable action =>
    let (ok, no) ← settlers p
    discard <| guarded (k.apply action thenable [ok, no]) fun e => k.apply no .undefined [e]

/-- Runs jobs until none is left, at most so many. -/
def Kernel.runJobs (k : Kernel) : Nat → Run Unit
  | 0 => return ()
  | n + 1 => do
    match ← nextJob? with
    | none => return ()
    | some j =>
      k.runJob j
      k.runJobs n

/-! ### Several promises -/

/-- What becomes of several promises together. -/
inductive Union where
  | all
  | allSettled
  | any
  | race
  deriving DecidableEq, Repr

/-- Ends the wait for several promises once none is awaited any more. -/
def Kernel.endGathering (k : Kernel) (u : Union) (values : Ref) (whole : Capability) : Run Unit := do
  match u with
  | .any =>
    let e ← makeError .aggregate "no promise in Promise.any was fulfilled."
    match e with
    | .object r => defineProperty r "errors" (.hidden (.object values))
    | _ => pure ()
    whole.rejectWith k e
  | _ => whole.resolveWith k (.object values)

/-- A function that takes the value at a place among several. -/
def gatherer (way : Gathering) (values : Ref) (place taken left : Nat) (whole : Capability) : Run Value :=
  makeNative (.promise (.gather way values place taken left whole)) "" 1

/-- Takes one of several awaited values, once. -/
def Kernel.gather (k : Kernel) (way : Gathering) (values : Ref) (place taken left : Nat) (whole : Capability)
    (v : Value) : Run Unit := do
  if (← readCell taken) != 0 then return ()
  writeCell taken 1
  let kept ← match way with
    | .outcome ok =>
      let r ← makeObject
      defineProperty r "status" (.plain (.string (if ok then "fulfilled" else "rejected")))
      defineProperty r (if ok then "value" else "reason") (.plain v)
      pure (Value.object r)
    | _ => pure v
  defineProperty values (CodeUnits.ofString (toString place)) (.plain kept)
  let n := (← readCell left) - 1
  writeCell left n
  if n = 0 then k.endGathering (if way == .reason then .any else .all) values whole

/-- The promise of several promises, made and asked by a maker. -/
def Kernel.unionOf (k : Kernel) (u : Union) (maker items : Value) : Run Value := do
  let whole ← Capability.new k maker
  whole.guard k do
    let resolve ← k.propertyOf maker resolveKey
    if !(← isCallable resolve) then typeFault "retrieving a non-callable promise resolver"
    let items ← itemsIn items
    let values := ((← makeArray []).ref?).getD 0
    -- One more is counted until all are asked, so that the wait does not end among them.
    let left ← newCell 1
    let (ok, no) ← whole.functions
    k.forEachItem items fun i v => do
      if u != .race then defineProperty values (CodeUnits.ofString (toString i)) (.plain .undefined)
      let p ← k.apply resolve maker [v]
      let taken ← newCell 0
      let take (way : Gathering) : Run Value := gatherer way values i taken left whole
      let (f, g) ← match u with
        | .all => pure (← take .value, no)
        | .allSettled => pure (← take (.outcome true), ← take (.outcome false))
        | .any => pure (ok, ← take .reason)
        | .race => pure (ok, no)
      writeCell left ((← readCell left) + 1)
      discard <| k.invoke p "then" [f, g]
    let n := (← readCell left) - 1
    writeCell left n
    if n = 0 && u != .race then k.endGathering u values whole

/-! ### The functions of promises -/

/-- The promise that a value has to be. -/
def needPromise (v : Value) (fault : String) : Run Ref := do
  match v with
  | .object r =>
    match (← object r).shape with
    | .promise _ => return r
    | _ => typeFault fault
  | _ => typeFault fault

/-- What the functions of promises do. -/
def Kernel.promiseFunction (k : Kernel) (f : PromiseFunction) (this : Value) (args : List Value) : Run Value := do
  let first := argument args 0
  match f with
  | .make => typeFault "Promise NewTarget cannot be undefined"
  | .resolve =>
    discard <| needObject this "Promise.resolve() called on a non-object"
    k.promiseOf this first
  | .reject =>
    discard <| needObject this "Promise.reject() called on a non-object"
    let c ← Capability.new k this
    c.rejectWith k first
    return c.promise
  | .all => k.unionOf .all this first
  | .allSettled => k.unionOf .allSettled this first
  | .any => k.unionOf .any this first
  | .race => k.unionOf .race this first
  | .andThen =>
    k.thenOf (← needPromise this "Promise.prototype.then: this is not a promise") first (argument args 1)
  | .orElse => k.invoke this "then" [.undefined, first]
  | .finish =>
    let p ← needObject this "finally called with a non-object promise"
    let maker ← k.makerOf p
    if ← isCallable first then
      k.invoke this "then"
        [← makeNative (.promise (.afterwards first maker true)) "" 1,
          ← makeNative (.promise (.afterwards first maker false)) "" 1]
    else k.invoke this "then" [first, first]
  | .settle p cell ok =>
    if (← readCell cell) != 0 then return .undefined
    writeCell cell 1
    if ok then k.resolvePromise p first else settlePromise p false first
    return .undefined
  | .receive holder =>
    keepSettler holder resolveKey "Resolve" first
    keepSettler holder rejectKey "Reject" (argument args 1)
    return .undefined
  | .gather way values place taken left whole =>
    k.gather way values place taken left whole first
    return .undefined
  | .afterwards f maker ok =>
    let p ← k.promiseOf maker (← k.apply f .undefined [])
    k.invoke p "then" [← makeNative (.promise (.passOn first ok)) "" 0]
  | .passOn v ok => if ok then return v else throwValue v

end Pagewalk.Script
