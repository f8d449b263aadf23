import Pagewalk.Event.Basic
import Pagewalk.Url.Parser

/-!
# Routines

What a listener does when it hears an event is a routine: a tree of steps, each of which asks the bus or the session
around it for something and goes on with the answer. A routine ends well or with an error. Listeners may emit events
themselves, and add and take away listeners, so a routine says what happens without saying what it leads to.
-/

namespace Pagewalk

/-- Which listener of a bus it is. -/
structure ListenerId where
  number : Nat
  deriving DecidableEq, Repr, Inhabited

/-- A sequence of steps; `σ` is what the listeners remember from one call to the next. -/
inductive Routine (σ : Type) where
  | done (outcome : Outcome)
  | emit (e : Event) (next : Outcome → Routine σ)
  | subscribe (filter : EventFilter) (handler : Event → Routine σ) (next : Except Error ListenerId → Routine σ)
  | unsubscribe (id : ListenerId) (next : Bool → Routine σ)
  | count (next : Nat → Routine σ)
  | note (records : List Log.Record) (next : Unit → Routine σ)
  | openWindow (d : Document) (url : Option Url) (config : ScriptConfig) (next : OpenPage → Routine σ)
  | evaluate (page : OpenPage) (source : String) (next : Except Error ScriptValue → Routine σ)
  | read (next : σ → Routine σ)
  | write (memory : σ) (next : Unit → Routine σ)

/-- What a listener does with an event that it hears. -/
abbrev Handler (σ : Type) := Event → Routine σ

namespace Routine

variable {σ : Type}

/-- Nothing is left to do. -/
def ok : Routine σ := done (.ok ())

/-- Gives up. -/
def fail (e : Error) : Routine σ := done (.error e)

/-- Goes on if it went well so far. -/
def orStop (next : Unit → Routine σ) : Outcome → Routine σ
  | .ok () => next ()
  | .error e => fail e

/-- Emits an event, and goes on if no listener gave up. -/
def announce (e : Event) (next : Unit → Routine σ) : Routine σ := emit e (orStop next)

/-- Emits events one after another, as long as no listener gives up. -/
def announceAll : List Event → (Unit → Routine σ) → Routine σ
  | [], next => next ()
  | e :: es, next => announce e fun _ => announceAll es next

/-- Changes what is remembered. -/
def change (f : σ → σ) (next : Unit → Routine σ) : Routine σ := read fun m => write (f m) next

/-- Does the second routine after the first, if the first went well. -/
def andThen : Routine σ → (Unit → Routine σ) → Routine σ
  | done o, k => orStop k o
  | emit e next, k => emit e fun o => (next o).andThen k
  | subscribe f h next, k => subscribe f h fun r => (next r).andThen k
  | unsubscribe id next, k => unsubscribe id fun b => (next b).andThen k
  | count next, k => count fun n => (next n).andThen k
  | note rs next, k => note rs fun u => (next u).andThen k
  | openWindow d u c next, k => openWindow d u c fun p => (next p).andThen k
  | evaluate p s next, k => evaluate p s fun r => (next r).andThen k
  | read next, k => read fun m => (next m).andThen k
  | write m next, k => write m fun u => (next u).andThen k

end Routine

end Pagewalk
