import Pagewalk.Event.Bus
import Pagewalk.Window

/-!
# Delivery

A hub is a bus with the session in which pages are open and with what the listeners remember. An event is delivered
to the listeners that hear it at the moment of its emission, one after another in the order of their subscription:
one that is added meanwhile does not hear it, one that is taken away meanwhile still does. The first listener that
gives up ends the delivery. Listeners emit events too, and so deliveries stand in one another; how deep they may
stand is bounded, and the answer is open only when that bound is met.
-/

namespace Pagewalk

/-- A bus, the session around it and the memory of the listeners. -/
structure Hub (σ : Type) where
  bus : Bus σ
  session : Session
  memory : σ

variable {σ : Type}

/-- How an event is delivered; nothing is answered if deliveries stand too deep in one another. -/
abbrev Delivery (σ : Type) := Event → Hub σ → Option (Outcome × Hub σ)

/-- Does a routine, given how the events that it emits are delivered. -/
def Routine.run (deliver : Delivery σ) : Routine σ → Hub σ → Option (Outcome × Hub σ)
  | done o, h => some (o, h)
  | emit e next, h =>
    match deliver e h with
    | none => none
    | some (o, h) => (next o).run deliver h
  | subscribe f k next, h =>
    let (r, bus) := h.bus.subscribe f k
    (next r).run deliver { h with bus }
  | unsubscribe id next, h =>
    let (b, bus) := h.bus.unsubscribe id
    (next b).run deliver { h with bus }
  | count next, h => (next h.bus.count).run deliver h
  | note rs next, h => (next ()).run deliver { h with session := rs.foldl Session.note h.session }
  | openWindow d url config next, h =>
    let (w, session) := h.session.openWindow d url config
    (next ⟨w, d, url⟩).run deliver { h with session }
  | evaluate page source next, h =>
    let (r, session) := h.session.evaluate .quiet page.window source
    (next r).run deliver { h with session }
  | read next, h => (next h.memory).run deliver h
  | write m next, h => (next ()).run deliver { h with memory := m }

namespace Hub

/-- The record about an emission. -/
def emissionRecord (e : Event) (hearers : Nat) : Log.Record :=
  ⟨.trace, .bus, "emit " ++ e.name ++ " for " ++ e.resource ++ " (" ++ toString hearers ++ " listeners)"⟩

/-- Adds a record to the log. -/
def note (h : Hub σ) (r : Log.Record) : Hub σ := { h with session := h.session.note r }

/-- Calls listeners one after another, up to the first that gives up. -/
def callAll (deliver : Delivery σ) (e : Event) : List (Listener σ) → Hub σ → Option (Outcome × Hub σ)
  | [], h => some (.ok (), h)
  | l :: ls, h =>
    match (l.handler e).run deliver h with
    | some (.ok (), h) => callAll deliver e ls h
    | stopped => stopped

/-- Delivers an event, with so many deliveries in one another. -/
def deliver : Nat → Delivery σ
  | 0, _, _ => none
  | depth + 1, e, h =>
    let hearers := h.bus.hearers e
    callAll (deliver depth) e hearers (h.note (emissionRecord e hearers.length))

/-- So many deliveries may stand in one another. -/
def depthBound : Nat := 4096

/-- Does a routine; where deliveries stand too deep it is broken off, and the hub stays as it was. -/
def perform (h : Hub σ) (r : Routine σ) : Outcome × Hub σ :=
  (r.run (deliver depthBound) h).getD (.error .panic, h)

end Hub

end Pagewalk
