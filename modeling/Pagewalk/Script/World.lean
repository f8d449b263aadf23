import Pagewalk.Document.Numbered
import Pagewalk.Log
import Pagewalk.Script.Config
import Pagewalk.Script.Native
import Pagewalk.Script.Term
import Pagewalk.Script.Timer
import Pagewalk.Url.Parser

/-!
# Realms, windows and sessions

A realm holds what the scripts of one window have made: objects, scopes, pending jobs and timers. A window is a
document with a realm that is made when its first script is evaluated; while a script runs in it the realm is in
the script's hands and the window is busy. A session is all windows together with the log.
-/

namespace Pagewalk

open Text

namespace Script

/-- A property of an object. -/
inductive Property where
  | data (value : Value) (isWritable isEnumerable isConfigurable : Bool)
  | accessor (get set : Option Ref) (isEnumerable isConfigurable : Bool)
  deriving Inhabited

/-- A property is met when the object's properties are gone through. -/
def Property.isEnumerable : Property → Bool
  | data _ _ e _ => e
  | accessor _ _ e _ => e

/-- A property may be taken away. -/
def Property.isConfigurable : Property → Bool
  | data _ _ _ c => c
  | accessor _ _ _ c => c

/-- A property that a script sets. -/
def Property.plain (v : Value) : Property := .data v true true true

/-- A property of the realm's own. -/
def Property.hidden (v : Value) : Property := .data v true false true

/-- What waits for a promise. -/
structure Reaction where
  onFulfilled : Option Value
  onRejected : Option Value
  /-- What is settled by the reaction. -/
  derived : Option Capability
  deriving Inhabited

/-- How a promise stands. -/
inductive PromiseState where
  | pending (reactions : List Reaction)
  | fulfilled (v : Value)
  | rejected (v : Value)
  deriving Inhabited

/-- Where a scope stands in its realm. -/
abbrev ScopeRef := Nat

/-- What an object is beside its properties. -/
inductive Shape where
  | plain
  /-- An object that holds functions of one kind, which has a name. -/
  | toolbox (name : String)
  /-- The first items, of which some may be missing, and the length, which may be greater; items after the first ones
  are properties. -/
  | array (items : Array (Option Value)) (length : Nat)
  /-- The arguments of a call. Those that belong to names of its scope change together with these. -/
  | arguments (scope : ScopeRef) (linked : Array (Option Name))
  | closure (f : Func) (scope : Option ScopeRef) (this : Value)
  | native (n : Native) (isMaker : Bool)
  | bound (target this : Value) (args : List Value)
  | error
  | promise (s : PromiseState)
  | date (ms : Float)
  | boxed (v : Value)
  deriving Inhabited

/-- An object. -/
structure Obj where
  parent : Option Ref
  shape : Shape
  properties : Std.HashMap Name Property
  /-- The keys in the order in which they were set. -/
  order : Array Name
  /-- Properties may be added. -/
  isOpen : Bool := true
  /-- The length of an array may be set. -/
  isLengthOpen : Bool := true
  deriving Inhabited

/-- What may be done to a declared name after its declaration. -/
inductive Binding where
  | mutable
  | constant
  /-- The name by which a function knows itself: only strict code hears that it cannot be given a value. -/
  | own
  deriving DecidableEq, Repr, Inhabited

/-- A declared name. -/
structure Slot where
  /-- A name has no value before its declaration is reached. -/
  value : Option Value
  binding : Binding
  deriving Inhabited

/-- Declared names, and the scope around them; outside of all is the global object. -/
structure Scope where
  slots : Std.HashMap Name Slot
  parent : Option ScopeRef
  /-- The arguments that change together with names. -/
  arguments? : Option Ref := none
  deriving Inhabited

/-- Work that waits until the running script is done. -/
inductive Job where
  | react (handler : Option Value) (ok : Bool) (derived : Option Capability) (argument : Value)
  | follow (promise : Ref) (thenable action : Value)
  deriving Inhabited

/-- What a timer does. -/
structure Task where
  callback : Value
  args : Value
  deriving Inhabited

/-- What the scripts of a window have made. -/
structure Realm where
  objects : Array Obj
  scopes : Array Scope
  /-- Small numbers that built-in functions share. -/
  cells : Array Nat
  jobs : List Job
  /-- Jobs that came later, last first. -/
  laterJobs : List Job
  timers : Timers Float Task
  /-- The wrapper of the document, once there is one. -/
  document : Value
  /-- The iterations counted in the running function. -/
  iterations : Nat
  deriving Inhabited

end Script

/-- What an evaluated script answers. -/
inductive ScriptValue where
  | undefined
  | null
  | bool (b : Bool)
  | number (x : Float)
  | text (s : String)
  /-- An object, written as data. -/
  | json (s : String)
  deriving Inhabited, Repr

/-- Which window of a session it is. -/
abbrev WindowId := Nat

/-- Whether a window has a realm, and whether a script holds it. -/
inductive RealmState where
  | absent
  | idle (realm : Script.Realm)
  | busy
  deriving Inhabited

/-- A document with what scripts have made of it. -/
structure Window where
  page : NumberedDocument
  url : Option Url
  config : ScriptConfig
  realm : RealmState
  deriving Inhabited

/-- All windows with the log. -/
structure Session where
  windows : Array Window := #[]
  records : Array Log.Record := #[]
  /-- The answers of the scripts that were evaluated while records were written. -/
  nested : Array (Except Error ScriptValue) := #[]
  /-- The documents of the evaluations that have begun and not ended, the last one first. -/
  active : List NumberedDocument := []
  deriving Inhabited

/-- Adds a record to the log. -/
def Session.note (s : Session) (r : Log.Record) : Session := { s with records := s.records.push r }

/-- What is done with the session when a script writes to the console. -/
abbrev Observer := Log.Record → Session → Session

/-- Nothing is done. -/
def Observer.quiet : Observer := fun _ s => s

namespace Script

/-- The realm of the running script, and the session around it. -/
structure World where
  realm : Realm
  session : Session

/-- What a running script cannot change: its window, how deep its calls stand, and who watches the console. -/
structure Context where
  page : NumberedDocument
  config : RuntimeLimits
  /-- How many functions of scripts stand in one another. -/
  frames : Nat
  /-- How many values these keep for later. -/
  stack : Nat
  /-- The objects that are being made simple. -/
  converting : List Ref
  observe : Observer

/-- Why a script was broken off. -/
inductive Abrupt where
  | thrown (v : Value)
  /-- A limit was met; a script cannot catch this. -/
  | limit (text : String)
  /-- A limit was met where only a thrown value can be handed on. -/
  | broken
  deriving Inhabited

end Script

end Pagewalk
