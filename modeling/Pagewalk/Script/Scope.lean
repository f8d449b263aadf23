import Pagewalk.Script.Convert

/-!
# Scopes

Where names are declared and found. Names that no scope declares are properties of the global object.
-/

namespace Pagewalk.Script

open Text

/-- Where a piece of code runs: its innermost scope, the scope that takes its variables, and its `this`. The scope
outside of all, which is the global object, is `none`. -/
structure Frame where
  scope : Option ScopeRef
  home : Option ScopeRef
  this : Value
  isStrict : Bool
  deriving Inhabited

/-- Makes a scope. -/
def newScope (slots : Std.HashMap Name Slot) (parent : Option ScopeRef) : Run ScopeRef := do
  let s := (← realm).scopes.size
  modifyRealm fun m => { m with scopes := m.scopes.push ⟨slots, parent, none⟩ }
  return s

/-- The scope that stands there. -/
def scopeAt (s : ScopeRef) : Run Scope := return (← realm).scopes[s]?.getD default

/-- Gives a name of a scope a value, and with it the argument that is linked to the name. -/
def writeSlot (s : ScopeRef) (x : Name) (v : Value) : Run Unit := do
  setSlot s x ⟨some v, .mutable⟩
  match (← scopeAt s).arguments? with
  | some r =>
    match (← object r).linkTo? x with
    | some i => setOwn r (Obj.indexKey i) (.plain v)
    | none => return ()
  | none => return ()

/-- Gives a scope the arguments of the call that it belongs to. -/
def giveArguments (s : ScopeRef) (r : Ref) : Run Unit := do
  setSlot s "arguments" ⟨some (.object r), .mutable⟩
  modifyRealm fun m => { m with scopes := m.scopes.modify s fun c => { c with arguments? := some r } }

/-- Finds the scope that declares a name, going outwards through at most so many. -/
def findSlotFrom : Nat → Option ScopeRef → Name → Run (Option (ScopeRef × Slot))
  | 0, _, _ => return none
  | _, none, _ => return none
  | n + 1, some s, x => do
    let c ← scopeAt s
    match c.slots[x]? with
    | some slot => return some (s, slot)
    | none => findSlotFrom n c.parent x

/-- Finds the scope that declares a name. -/
def findSlot (fr : Frame) (x : Name) : Run (Option (ScopeRef × Slot)) := do
  findSlotFrom ((← realm).scopes.size + 1) fr.scope x

/-- A name was met before its declaration. -/
def tooEarly {α : Type} : Run α := fail .reference "access of uninitialized binding"

/-- The value of a name, if it is declared. -/
def Kernel.lookup? (k : Kernel) (fr : Frame) (x : Name) : Run (Option Value) := do
  match ← findSlot fr x with
  | some (_, ⟨some v, _⟩) => return some v
  | some (_, ⟨none, _⟩) => tooEarly
  | none => k.global? x

/-- The value of a name. -/
def Kernel.lookup (k : Kernel) (fr : Frame) (x : Name) : Run Value := do
  match ← k.lookup? fr x with
  | some v => return v
  | none => undeclared x

/-- Gives a name a value. -/
def Kernel.assignName (k : Kernel) (fr : Frame) (x : Name) (v : Value) : Run Unit := do
  let refused : Run Unit := typeFault ("cannot mutate an immutable binding '" ++ x.toText ++ "'")
  match ← findSlot fr x with
  | some (s, ⟨some _, .mutable⟩) => writeSlot s x v
  | some (_, ⟨some _, .constant⟩) => refused
  | some (_, ⟨some _, .own⟩) => if fr.isStrict then refused else return ()
  | some (_, ⟨none, _⟩) => tooEarly
  | none =>
    if fr.isStrict && !(← hasProperty Intrinsic.global.ref x) then
      fail .reference ("cannot assign to uninitialized global property `" ++ x.toText ++ "`")
    k.put Intrinsic.global.ref x v fr.isStrict

/-- Declares a variable, keeping the value that it may have. -/
def declareVar (home : Option ScopeRef) (x : Name) : Run Unit := do
  match home with
  | none =>
    if ((← object Intrinsic.global.ref).own? x).isNone then
      defineProperty Intrinsic.global.ref x (.plain .undefined)
  | some s =>
    if !(← scopeAt s).slots.contains x then setSlot s x ⟨some .undefined, .mutable⟩

/-- Declares a function. -/
def declareFunction (home : Option ScopeRef) (x : Name) (v : Value) : Run Unit := do
  match home with
  | none =>
    match (← object Intrinsic.global.ref).own? x with
    -- A property that cannot be taken away keeps its marks, and its value too where it cannot be written.
    | some (.data _ w e false) => if w then defineProperty Intrinsic.global.ref x (.data v w e false) else return ()
    | _ => defineProperty Intrinsic.global.ref x (.plain v)
  | some s => writeSlot s x v

/-- Gives a declared name of the innermost scope its first value. -/
def giveFirst (scope : Option ScopeRef) (x : Name) (v : Value) (binding : Binding) : Run Unit := do
  match scope with
  | some s => setSlot s x ⟨some v, binding⟩
  | none => return ()

/-- Makes a function of a script. Arrow functions and methods make no objects. -/
def makeClosure (f : Func) (fr : Frame) (scope : Option ScopeRef) : Run Value := do
  let o := functionObject (.closure f scope fr.this) f.name f.params.length
  have plain : o.shape.settles? = none := congrArg Shape.settles? (shape_functionObject ..)
  if f.traits.isArrow || f.traits.isMethod then return .object (← allocate o plain)
  return .object (← allocateMaker o plain)

/-- Declares the variables and functions of a body. -/
def hoist (fr : Frame) (body : List Stmt) : Run Unit := do
  for x in Stmt.varNamesOfAll body do
    declareVar fr.home x
  for f in Stmt.functionsOf body do
    declareFunction fr.home f.name (← makeClosure f fr fr.scope)

/-- Slots with those of the names that a block declares; these have no values yet. -/
def blockSlots (body : List Stmt) (slots : Std.HashMap Name Slot) : Std.HashMap Name Slot :=
  (Stmt.blockNamesOf body).foldl
    (fun m (x, isMutable) => m.insert x ⟨none, if isMutable then .mutable else .constant⟩) slots

/-- Enters a block: a scope is made if the block declares names, and its functions are declared in it. -/
def enterBlock (fr : Frame) (body : List Stmt) : Run Frame := do
  let slots := blockSlots body ∅
  let functions := Stmt.functionsOf body
  if slots.isEmpty && functions.isEmpty then return fr
  let s ← newScope slots fr.scope
  let inner := { fr with scope := some s }
  for f in functions do
    setSlot s f.name ⟨some (← makeClosure f inner (some s)), .mutable⟩
  return inner

end Pagewalk.Script
