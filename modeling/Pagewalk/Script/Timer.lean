/-!
# Timers

A timer is due at a time and, among those due at the same time, in the order in which they were set. The clock
moves only when a timer fires, to the time at which it was due. A timer with an interval is set again when it
fires, before its task runs.
-/

namespace Pagewalk.Script

/-- A timer: its number, when it is due, its turn among those due then, and what it does. -/
structure Timer (τ α : Type) where
  id : Nat
  due : τ
  turn : Nat
  task : α
  /-- How long after each firing it is due again. -/
  interval : Option τ
  deriving Repr

/-- The clock with the timers that are set. -/
structure Timers (τ α : Type) where
  now : τ
  nextId : Nat
  nextTurn : Nat
  pending : List (Timer τ α)

namespace Timers

variable {τ α : Type}

/-- No timer is set. -/
def start (now : τ) : Timers τ α := ⟨now, 1, 0, []⟩

instance [Inhabited τ] : Inhabited (Timers τ α) := ⟨start default⟩

/-- Sets a timer for some time after now. -/
def schedule [Add τ] (t : Timers τ α) (task : α) (wait : τ) (repeats : Bool) : Nat × Timers τ α :=
  (t.nextId,
    { t with
      nextId := t.nextId + 1
      nextTurn := t.nextTurn + 1
      pending := t.pending ++ [⟨t.nextId, t.now + wait, t.nextTurn, task, if repeats then some wait else none⟩] })

/-- Takes back the timer of a number, if it is set. -/
def cancel (t : Timers τ α) (id : Nat) : Timers τ α := { t with pending := t.pending.filter fun m => m.id != id }

/-- A timer fires before another. -/
def isBefore [LT τ] [DecidableLT τ] [BEq τ] (a b : Timer τ α) : Bool :=
  decide (a.due < b.due) || (a.due == b.due && decide (a.turn < b.turn))

/-- The timer that fires first, if any is set. -/
def earliest? [LT τ] [DecidableLT τ] [BEq τ] (pending : List (Timer τ α)) : Option (Timer τ α) :=
  match pending with
  | [] => none
  | m :: ms => some (ms.foldl (fun best x => if isBefore x best then x else best) m)

/-- Fires the earliest timer: the clock moves to when it was due, and it is set again if it repeats. -/
def fire? [LT τ] [DecidableLT τ] [BEq τ] [Add τ] (t : Timers τ α) : Option (α × Timers τ α) :=
  match earliest? t.pending with
  | none => none
  | some m =>
    let now := if t.now < m.due then m.due else t.now
    let rest := t.pending.filter fun x => x.id != m.id
    some (m.task,
      match m.interval with
      | none => { t with now := now, pending := rest }
      | some wait =>
        { t with
          now := now
          nextTurn := t.nextTurn + 1
          pending := rest ++ [{ m with due := now + wait, turn := t.nextTurn }] })

/-- What is done to timers. -/
inductive Deed (τ α : Type) where
  | schedule (task : α) (wait : τ) (repeats : Bool)
  | cancel (id : Nat)
  | fire

/-- The timers after a deed. -/
def after [LT τ] [DecidableLT τ] [BEq τ] [Add τ] (t : Timers τ α) : Deed τ α → Timers τ α
  | .schedule task wait repeats => (t.schedule task wait repeats).2
  | .cancel id => t.cancel id
  | .fire => (t.fire?.map Prod.snd).getD t

end Timers

end Pagewalk.Script
