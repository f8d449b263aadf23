import Pagewalk.Script.Iteration
import Pagewalk.Script.Scope

/-!
# Evaluation

The value of an expression and the effect of a statement, by recursion on the term. Functions are called through
the kernel, so that the recursion never leaves the term. A loop runs as long as the count of iterations in its
function is within the limit.
-/

namespace Pagewalk.Script

open Text

/-- How a statement ends, each with the value that it has so far: it is passed, it leaves a loop or a labelled
statement, it goes on with a loop, or it answers the call. -/
inductive Flow where
  | next (v : Option Value)
  | exit (label : Option Name) (v : Option Value)
  | again (label : Option Name) (v : Option Value)
  | ret (v : Value)
  deriving Inhabited

/-- The flow with a value; what a statement does not have comes from what went before. -/
def Flow.orElse (f : Flow) (v : Option Value) : Flow :=
  match f with
  | next none => next v
  | exit label none => exit label v
  | again label none => again label v
  | f => f

/-- Leaving or going on at a label is meant for a loop that has some labels. -/
def isMeant (labels : List Name) (label : Option Name) : Bool := label.elim true labels.contains

/-- Runs a loop with some labels: what the next iteration is about, if there is one, the body, then the step to the
next state; at most so often. -/
def loopFrom {σ τ : Type} (labels : List Name) (next : σ → Run (Option τ)) (body : τ → Run Flow) (step : τ → Run σ) :
    Nat → σ → Option Value → Run Flow
  | 0, _, _ => do overrun (← read).config.loopLimit
  | n + 1, state, v => do
    match ← next state with
    | some now =>
      match ← body now with
      | .next w => loopFrom labels next body step n (← step now) (w <|> v)
      | .again label w =>
        if isMeant labels label then loopFrom labels next body step n (← step now) (w <|> v)
        else return .again label (some ((w <|> v).getD .undefined))
      | .exit none w => return .next (some ((w <|> v).getD .undefined))
      | .exit label w => return .exit label (some ((w <|> v).getD .undefined))
      | .ret w => return .ret w
    | none => return .next (some (v.getD .undefined))

/-- Runs a loop, with the value so far, for as long as its test holds and its iterations are allowed. Each iteration
may have a scope of its own. -/
def runLoop (labels : List Name) (fr : Frame) (v : Option Value) (test : Frame → Run Bool)
    (body : Frame → Run Flow) (step : Frame → Run Frame) : Run Flow := do
  let next (fr : Frame) : Run (Option Frame) := do if ← test fr then return some fr else return none
  loopFrom labels next body step ((← read).config.loopLimit + 3) fr v

/-- Runs a body for each of what is left to go through, as long as its iterations are allowed. -/
def Kernel.runEach (k : Kernel) (labels : List Name) (start : Ahead) (body : Value → Run Flow) : Run Flow := do
  let next (rest : Ahead) : Run (Option (Value × Ahead)) := do
    countIteration
    k.nextOf rest
  loopFrom labels next (fun now => body now.1) (fun now => return now.2) ((← read).config.loopLimit + 3) start none

/-- The names that the target of a loop declares for each iteration. -/
def eachSlots (kind : Option DeclarationKind) (target : Expr) (v : Option Value) : Std.HashMap Name Slot :=
  match kind, target with
  | some .letting, .name x => Std.HashMap.ofList [(x, ⟨v, .mutable⟩)]
  | some .constant, .name x => Std.HashMap.ofList [(x, ⟨v, .constant⟩)]
  | _, _ => ∅

/-- A frame in which some names are declared, if there are any. -/
def withSlots (fr : Frame) (slots : Std.HashMap Name Slot) : Run Frame := do
  if slots.isEmpty then return fr else return { fr with scope := some (← newScope slots fr.scope) }

/-- The frame of the next iteration: names that the loop declares are copied, so that functions made in one
iteration keep theirs. -/
def nextIteration (start : List Stmt) (fr : Frame) : Run Frame := do
  match fr.scope with
  | some s =>
    if (Stmt.blockNamesOf start).isEmpty then return fr
    let c ← scopeAt s
    return { fr with scope := some (← newScope c.slots c.parent) }
  | none => return fr

/-- A target of an assignment whose parts were evaluated. -/
inductive Target where
  | name (x : Name)
  | property (o : Value) (key : Name)
  | item (o key : Value)

/-- How many values are kept for a target while the value that it gets is found. -/
def Target.kept : Target → Nat
  | name _ => 0
  | property .. => 2
  | item .. => 3

/-- What stands in a target. -/
def Kernel.readTarget (k : Kernel) (fr : Frame) : Target → Run Value
  | .name x => k.lookup fr x
  | .property o key => k.propertyOf o key
  | .item o key => k.readIndex o key

/-- Puts a value into a target. -/
def Kernel.writeTarget (k : Kernel) (fr : Frame) (t : Target) (v : Value) : Run Unit := do
  match t with
  | .name x => k.assignName fr x v
  | .property o key => k.putOf o key v fr.isStrict
  | .item o key =>
    if o.isNullish then typeFault "cannot convert 'null' or 'undefined' to object"
    k.putOf o (← k.toKey key) v fr.isStrict

/-- A logical operator needs its second operand. -/
def LogicalOp.goesOn (op : LogicalOp) (v : Value) : Bool :=
  match op with
  | .and => v.isTruthy
  | .or => !v.isTruthy
  | .nullish => v.isNullish

/-- Adds the getter or the setter of a property to what is there. -/
def accessorWith (old : Option Property) (getter setter : Option Ref) : Property :=
  match old with
  | some (.accessor g s ..) => .accessor (getter <|> g) (setter <|> s) true true
  | _ => .accessor getter setter true true

/-- Takes a property away, which fails aloud in strict mode alone. -/
def takeAway (fr : Frame) (r : Ref) (key : Name) : Run Value := do
  if ← deleteProperty r key then return .bool true
  if fr.isStrict then typeFault "Cannot delete property"
  return .bool false

mutual

/-- The value of an expression. -/
def Expr.run (k : Kernel) (fr : Frame) : Expr → Run Value
  | .null => return .null
  | .bool b => return .bool b
  | .number x => return .number x
  | .text s => return .text s
  | .this => return fr.this
  | .name x => k.lookup fr x
  | .hole => return .undefined
  | .array items => do
    let vs ← holding 1 (Expr.runItems k fr items)
    makeItems vs.toArray
  | .object fields => do
    let r ← makeObject
    Field.runAll k fr r fields
    return .object r
  | .func f => makeClosure f fr fr.scope
  -- The name of a function expression is known inside it alone.
  | .selfFunc f => do
    let s ← newScope ∅ fr.scope
    let v ← makeClosure f fr (some s)
    setSlot s f.name ⟨some v, .own⟩
    return v
  | .unary op e => do k.unary op (← e.run k fr)
  | .typeOf e => do
    match e with
    | .name x => return .string (← typeName ((← k.lookup? fr x).getD .undefined))
    | e => return .string (← typeName (← e.run k fr))
  | .delete e => do
    match e with
    | .member o p =>
      let r ← toObject (← o.run k fr)
      takeAway fr r p
    | .index o p =>
      let r ← toObject (← o.run k fr)
      let key ← k.toKey (← p.run k fr)
      takeAway fr r key
    | .name x =>
      -- Only a name that no scope declares is a property, of the global object.
      if (← findSlot fr x).isSome then return .bool false
      else return .bool (← deleteProperty Intrinsic.global.ref x)
    | e =>
      discard <| e.run k fr
      return .bool true
  | .update up isNew target => do
    let t ← Expr.target k fr target
    let old ← k.toNumber (← k.readTarget fr t)
    let new := if up then old + 1.0 else old - 1.0
    k.writeTarget fr t (.number new)
    return .number (if isNew then new else old)
  | .binary op a b => do
    let x ← a.run k fr
    let y ← holding 1 (b.run k fr)
    k.binary op x y
  | .logical op a b => do
    let x ← a.run k fr
    if op.goesOn x then b.run k fr else return x
  | .assign op target value => do
    let t ← Expr.target k fr target
    match op with
    | .plain =>
      let v ← holding t.kept (value.run k fr)
      k.writeTarget fr t v
      return v
    | .binary op =>
      let old ← k.readTarget fr t
      let v ← k.binary op old (← holding (t.kept + 1) (value.run k fr))
      k.writeTarget fr t v
      return v
    | .logical op =>
      let old ← k.readTarget fr t
      if op.goesOn old then
        let v ← holding t.kept (value.run k fr)
        k.writeTarget fr t v
        return v
      else return old
  | .conditional test yes no => do
    if (← test.run k fr).isTruthy then yes.run k fr else no.run k fr
  | .sequence a b => do
    discard <| a.run k fr
    b.run k fr
  | .member e p => do k.propertyOf (← e.run k fr) p
  | .index e p => do
    let o ← e.run k fr
    let key ← holding 1 (p.run k fr)
    k.readIndex o key
  | .call f args => do
    match f with
    | .member e p =>
      let o ← e.run k fr
      let g ← k.propertyOf o p
      k.apply g o (← holding 2 (Expr.runAll k fr args))
    | .index e p =>
      let o ← e.run k fr
      let g ← k.readIndex o (← holding 1 (p.run k fr))
      k.apply g o (← holding 2 (Expr.runAll k fr args))
    | f =>
      let g ← f.run k fr
      k.apply g .undefined (← holding 2 (Expr.runAll k fr args))
  | .new f args => do
    let g ← f.run k fr
    k.construct g (← holding 1 (Expr.runAll k fr args))

/-- The values of some expressions, each kept while the next are found. -/
def Expr.runAll (k : Kernel) (fr : Frame) : List Expr → Run (List Value)
  | [] => return []
  | e :: es => do
    let v ← e.run k fr
    return v :: (← holding 1 (Expr.runAll k fr es))

/-- The items of an array; one that is left out has no value. -/
def Expr.runItems (k : Kernel) (fr : Frame) : List Expr → Run (List (Option Value))
  | [] => return []
  | .hole :: es => return none :: (← Expr.runItems k fr es)
  | e :: es => do
    let v ← e.run k fr
    return some v :: (← Expr.runItems k fr es)

/-- The target of an assignment, its parts evaluated. -/
def Expr.target (k : Kernel) (fr : Frame) : Expr → Run Target
  | .name x => return .name x
  | .member e p => return .property (← e.run k fr) p
  | .index e p => do
    let o ← e.run k fr
    return .item o (← holding 2 (p.run k fr))
  | _ => fail .malformed "invalid assignment target"

/-- Gives an object its properties. -/
def Field.runAll (k : Kernel) (fr : Frame) (r : Ref) : List Field → Run Unit
  | [] => return ()
  | .value key e :: fs => do
    let v ← holding 2 (e.run k fr)
    defineProperty r key (.plain v)
    Field.runAll k fr r fs
  | .computed key e :: fs => do
    let name ← k.toKey (← holding 2 (key.run k fr))
    let v ← holding 3 (e.run k fr)
    defineProperty r name (.plain v)
    Field.runAll k fr r fs
  | .getter key f :: fs => do
    let v ← makeClosure f fr fr.scope
    let old := (← object r).own? key
    defineProperty r key (accessorWith old v.ref? none)
    Field.runAll k fr r fs
  | .setter key f :: fs => do
    let v ← makeClosure f fr fr.scope
    let old := (← object r).own? key
    defineProperty r key (accessorWith old none v.ref?)
    Field.runAll k fr r fs
  | .parent e :: fs => do
    match ← holding 1 (e.run k fr) with
    | .object parent => modifyObject r fun o => { o with parent := some parent }
    | .null => modifyObject r fun o => { o with parent := none }
    | _ => pure ()
    Field.runAll k fr r fs

/-- The value of an expression, or undefined where there is none. -/
def Expr.runOption (k : Kernel) (fr : Frame) : Option Expr → Run Value
  | none => return .undefined
  | some e => e.run k fr

/-- The outcome of a test; where there is none it holds. -/
def Expr.holds (k : Kernel) (fr : Frame) : Option Expr → Run Bool
  | none => return true
  | some e => return (← e.run k fr).isTruthy

/-- The effect of a statement, which has some labels. -/
def Stmt.run (k : Kernel) (fr : Frame) (labels : List Name) : Stmt → Run Flow
  | .empty => return .next none
  | .expr e => return .next (some (← e.run k fr))
  | .declare kind x value => do
    match kind, value with
    | .var, none => return .next none
    | .var, some e =>
      k.assignName fr x (← e.run k fr)
      return .next none
    | kind, value =>
      let v ← Expr.runOption k fr value
      giveFirst fr.scope x v (if kind == .letting then .mutable else .constant)
      return .next none
  -- Functions are made as their block is entered.
  | .func _ => return .next none
  | .block body => do
    let inner ← enterBlock fr body
    Stmt.runAll k inner none body
  | .branch test yes no => do
    let flow ← if (← test.run k fr).isTruthy then yes.run k fr [] else Stmt.runOption k fr no
    return flow.orElse (some .undefined)
  | .loop start test step body => do
    let inner ← enterBlock fr start
    discard <| Stmt.runAll k inner none start
    runLoop labels inner none (fun fr => Expr.holds k fr test) (fun fr => body.run k fr []) fun fr => do
      -- An iteration is counted as the next one begins, so the first is not.
      let fr ← nextIteration start fr
      countIteration
      discard <| Expr.runOption k fr step
      return fr
  | .whileLoop test body =>
    runLoop labels fr none (fun fr => do countIteration; return (← test.run k fr).isTruthy)
      (fun fr => body.run k fr []) pure
  | .doWhile body test => do
    let more (v : Option Value) : Run Flow :=
      runLoop labels fr v (fun fr => do countIteration; return (← test.run k fr).isTruthy)
        (fun fr => body.run k fr []) pure
    -- The body runs once before anything is counted or asked.
    match ← body.run k fr [] with
    | .exit none v => return .next (some (v.getD .undefined))
    | .exit label v => return .exit label v
    | .ret v => return .ret v
    | .next v => more v
    | .again label v => if isMeant labels label then more v else return .again label v
  | .each course kind target source body => do
    let v ← source.run k (← withSlots fr (eachSlots kind target none))
    k.runEach labels (← aheadIn course v) fun v => do
      let inner ← withSlots fr (eachSlots kind target (some v))
      -- A loop that declares no name assigns to its target.
      if inner.scope == fr.scope then k.writeTarget fr (← target.target k fr) v
      body.run k inner []
  | .select e cases => do
    let v ← e.run k fr
    let inner ← enterBlock fr (Case.bodies cases)
    let flow ← match ← Case.runFrom k inner v cases with
      | some flow => pure flow
      | none => Case.runOthers k inner cases
    match flow.orElse (some .undefined) with
    | .exit none v => return .next v
    | flow => return flow
  | .ret value => return .ret (← Expr.runOption k fr value)
  | .throw value => do throwValue (← value.run k fr)
  | .break label => return .exit label none
  | .continue label => return .again label none
  | .labeled x body => do
    match ← body.run k fr (x :: labels) with
    | .exit (some y) v => return if y == x then .next v else .exit (some y) v
    | flow => return flow
  | .attempt body name handler last => do
    let main : Run Flow := do
      let inner ← enterBlock fr body
      return (← Stmt.runAll k inner none body).orElse (some .undefined)
    let guarded : Run Flow := match handler with
      | none => main
      | some handling =>
        catching main fun v => do
          let inner ← match name with
            | none => pure fr
            | some x =>
              let s ← newScope (Std.HashMap.ofList [(x, ⟨some v, .mutable⟩)]) fr.scope
              pure { fr with scope := some s }
          let inner ← enterBlock inner handling
          return (← Stmt.runAll k inner none handling).orElse (some .undefined)
    match last with
    | none => guarded
    | some ending =>
      -- How the last part ends counts for more than how the others did, unless it is passed.
      let ended ← catching (Except.ok <$> guarded) fun v => return Except.error v
      let inner ← enterBlock fr ending
      match ← Stmt.runAll k inner none ending with
      | .next _ =>
        match ended with
        | .ok flow => return flow
        | .error v => throwValue v
      | other => return other.orElse (some .undefined)
  | .several parts => Stmt.runAll k fr none parts

/-- The effect of the cases from the first that stands for a value on; `none` if there is none. -/
def Case.runFrom (k : Kernel) (fr : Frame) (v : Value) : List Case → Run (Option Flow)
  | [] => return none
  | .mk none _ :: cs => Case.runFrom k fr v cs
  | .mk (some e) body :: cs => do
    if v.strictEq (← holding 1 (e.run k fr)) then
      match ← Stmt.runAll k fr none body with
      | .next w => return some (← Case.runAll k fr w cs)
      | other => return some other
    else Case.runFrom k fr v cs

/-- The effect of the cases from the one on that stands for all other values. -/
def Case.runOthers (k : Kernel) (fr : Frame) : List Case → Run Flow
  | [] => return .next none
  | .mk none body :: cs => do
    match ← Stmt.runAll k fr none body with
    | .next w => Case.runAll k fr w cs
    | other => return other
  | .mk (some _) _ :: cs => Case.runOthers k fr cs

/-- The effect of some cases, one after another, with the value so far. -/
def Case.runAll (k : Kernel) (fr : Frame) (v : Option Value) : List Case → Run Flow
  | [] => return .next v
  | .mk _ body :: cs => do
    match ← Stmt.runAll k fr v body with
    | .next w => Case.runAll k fr w cs
    | other => return other

/-- The effect of a statement, if there is one. -/
def Stmt.runOption (k : Kernel) (fr : Frame) : Option Stmt → Run Flow
  | none => return .next none
  | some s => s.run k fr []

/-- The effect of some statements, one after another, with the value so far. -/
def Stmt.runAll (k : Kernel) (fr : Frame) (v : Option Value) : List Stmt → Run Flow
  | [] => return .next v
  | s :: ss => do
    match ← s.run k fr [] with
    | .next w => Stmt.runAll k fr (w <|> v) ss
    | other => return other.orElse v

end

end Pagewalk.Script
