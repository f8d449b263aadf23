import Pagewalk.Event.Routine

/-!
# The bus

A bus holds its listeners in the order in which they subscribed. Every listener gets the number after the one that
was given before it, so that no number is given twice before the last number there is. A bus may have a limit of
listeners; zero means that there is none.
-/

namespace Pagewalk

/-- How many listeners a bus may have. -/
structure BusConfig where
  maxListeners : Nat := 0
  deriving DecidableEq, Repr, Inhabited

namespace BusConfig

/-- The greatest limit that may be set. -/
def ceiling : Nat := 65536

/-- The configuration, if its limit is allowed. -/
def checked (c : BusConfig) : Except Error BusConfig :=
  if c.maxListeners > ceiling then .error (.listenerCeiling ceiling) else .ok c

end BusConfig

/-- Who hears which events, and does what with them. -/
structure Listener (σ : Type) where
  id : ListenerId
  filter : EventFilter
  handler : Handler σ

/-- The listeners that are subscribed. -/
structure Bus (σ : Type) where
  config : BusConfig := {}
  /-- The number of the next listener. -/
  next : Nat := 1
  listeners : List (Listener σ) := []
  deriving Inhabited

namespace Bus

variable {σ : Type}

/-- The number of listeners. -/
def count (b : Bus σ) : Nat := b.listeners.length

/-- No listener may be added. -/
def isFull (b : Bus σ) : Bool := b.config.maxListeners > 0 && b.count ≥ b.config.maxListeners

/-- The last number that a listener may get; all listeners that come after it get it too. -/
def lastNumber : Nat := 18446744073709551615

/-- Adds a listener after the others, if there is room. -/
def subscribe (b : Bus σ) (filter : EventFilter) (handler : Handler σ) : Except Error ListenerId × Bus σ :=
  if b.isFull then (.error (.tooManyListeners b.config.maxListeners), b)
  else
    let id : ListenerId := ⟨b.next⟩
    (.ok id, { b with next := min (b.next + 1) lastNumber, listeners := b.listeners ++ [⟨id, filter, handler⟩] })

/-- There is a listener with this number. -/
def has (b : Bus σ) (id : ListenerId) : Bool := b.listeners.any fun l => l.id == id

/-- Takes a listener away; the answer says whether it was there. -/
def unsubscribe (b : Bus σ) (id : ListenerId) : Bool × Bus σ :=
  (b.has id, { b with listeners := b.listeners.filter fun l => l.id != id })

/-- The listeners that hear an event, in the order of their subscription. -/
def hearers (b : Bus σ) (e : Event) : List (Listener σ) := b.listeners.filter fun l => l.filter.admits e

/-- A short description of the bus. -/
def described (b : Bus σ) : String :=
  "EventBus \x7b config: BusConfig \x7b max_listeners: " ++ toString b.config.maxListeners ++ " \x7d, listeners: " ++
    toString b.count ++ " \x7d"

end Bus

end Pagewalk
