import Pagewalk.Proofs.Event.Emissions
import Pagewalk.Proofs.Event.Register

/-!
# The turns of a run

A turn is one call of a listener. What a routine leads to is a list of turns, in the order in which the calls begin:
those of the listeners that its emissions call, after each turn the ones that its own emissions lead to, at any
depth. What a listener sees of a run are the events of its turns.
-/

namespace Pagewalk

variable {σ : Type}

namespace Hub

/-- An event as it is emitted: from which hub, and with which answer. -/
structure Utterance (σ : Type) where
  hub : Hub σ
  event : Event
  answer : Option Outcome

/-- No listener objected to the event. -/
def Utterance.IsHeard (u : Utterance σ) : Prop := u.answer = some (.ok ())

instance (u : Utterance σ) : Decidable u.IsHeard :=
  match h : u.answer with
  | some (.ok ()) => isTrue h
  | some (.error _) => isFalse fun heard => nomatch h.symm.trans heard
  | none => isFalse fun heard => nomatch h.symm.trans heard

/-- The step is an emission. -/
def Step.IsEmission (s : Step σ) : Prop := ∃ e, s.request = .emit e

instance (s : Step σ) : Decidable s.IsEmission :=
  match h : s.request with
  | .emit e => isTrue ⟨e, h⟩
  | .subscribe _ _ => isFalse fun ⟨_, no⟩ => nomatch h.symm.trans no
  | .unsubscribe _ => isFalse fun ⟨_, no⟩ => nomatch h.symm.trans no

/-- What a step emits. -/
def Step.utterance? (d : Delivery σ) (s : Step σ) : Option (Utterance σ) :=
  match s.request with
  | .emit e => some ⟨s.hub, e, (d e s.hub).map Prod.fst⟩
  | _ => none

/-- A call of a listener, with what it emits meanwhile. -/
structure Turn (σ : Type) where
  listener : Listener σ
  event : Event
  uttered : List (Utterance σ)

end Hub

/-- The own emissions of a routine, with the hubs from which they are made. -/
def Routine.utterances (d : Delivery σ) (r : Routine σ) (h : Hub σ) : List (Hub.Utterance σ) :=
  (r.steps d h).filterMap (Hub.Step.utterance? d)

section Emitting
variable {d : Delivery σ} {e : Event} {next : Outcome → Routine σ} {h h' : Hub σ}

theorem Routine.utterances_emit_none (hd : d e h = none) : (emit e next).utterances d h = [⟨h, e, none⟩] := by
  simp only [utterances, steps, Hub.Step.utterance?, List.filterMap_cons, hd, Option.map_none, List.filterMap_nil]

theorem Routine.utterances_emit_some {o : Outcome} (hd : d e h = some (o, h')) :
    (emit e next).utterances d h = ⟨h, e, some o⟩ :: (next o).utterances d h' := by
  simp only [utterances, steps, Hub.Step.utterance?, List.filterMap_cons, hd, Option.map_some]

end Emitting

/-- The own emissions of a routine are its utterances without the hubs. -/
theorem Routine.emissions_eq (d : Delivery σ) (r : Routine σ) (h : Hub σ) :
    r.emissions d h = (r.utterances d h).map fun u => ⟨u.event, u.answer⟩ := by
  induction r generalizing h with
  | done o => rfl
  | emit e next ih =>
    cases hd : d e h with
    | none =>
      rw [emissions_emit_none hd, utterances_emit_none hd]
      rfl
    | some answered =>
      rw [emissions_emit_some hd, utterances_emit_some hd]
      exact congrArg (_ :: ·) (ih answered.1 answered.2)
  | subscribe f k next _ ih => exact ih _ _
  | unsubscribe id next ih => exact ih _ _
  | count next ih => exact ih _ _
  | note rs next ih => exact ih _ _
  | openWindow document url config next ih => exact ih _ _
  | evaluate page source next ih => exact ih _ _
  | read next ih => exact ih _ _
  | write m next ih => exact ih _ _

namespace Hub

/-- The turns to which listeners lead that are called one after another. -/
def turnsOf (d : Delivery σ) (within : Event → Hub σ → List (Turn σ)) (e : Event) :
    List (Listener σ) → Hub σ → List (Turn σ)
  | [], _ => []
  | l :: ls, h =>
    let uttered := (l.handler e).utterances d h
    ⟨l, e, uttered⟩ :: (uttered.flatMap fun u => within u.event u.hub) ++
      match (l.handler e).run d h with
      | some (.ok (), h) => turnsOf d within e ls h
      | _ => []

/-- The turns to which a delivery within a bound leads. -/
def turns : Nat → Event → Hub σ → List (Turn σ)
  | 0, _, _ => []
  | depth + 1, e, h => turnsOf (deliver depth) (turns depth) e (h.bus.hearers e) (h.begun e)

/-- The events with which a listener is called. -/
def seenBy (id : ListenerId) (ts : List (Turn σ)) : List Event :=
  (ts.filter fun t => t.listener.id == id).map (·.event)

section Seen
variable {id : ListenerId}

theorem seenBy_append (ts us : List (Turn σ)) : seenBy id (ts ++ us) = seenBy id ts ++ seenBy id us := by
  rw [seenBy, List.filter_append, List.map_append]
  rfl

theorem seenBy_cons (t : Turn σ) (ts : List (Turn σ)) :
    seenBy id (t :: ts) = (if t.listener.id = id then [t.event] else []) ++ seenBy id ts := by
  by_cases same : t.listener.id = id
  · rw [if_pos same, seenBy, List.filter_cons_of_pos (by simpa using same)]
    rfl
  · rw [if_neg same, seenBy, List.filter_cons_of_neg (by simpa using same)]
    rfl

end Seen

end Hub

/-- The turns to which a routine leads. -/
def Routine.turns (depth : Nat) (r : Routine σ) (h : Hub σ) : List (Hub.Turn σ) :=
  (r.utterances (Hub.deliver depth) h).flatMap fun u => Hub.turns depth u.event u.hub

/-! ### Runs that leave the table alone -/

theorem Hub.Step.IsEmission.after_eq {s : Hub.Step σ} (h : s.IsEmission) : s.after = s.hub.bus := by
  obtain ⟨e, he⟩ := h
  rw [after, he]

/-- Where no step changes the table, all find the same one. -/
theorem Hub.Joined.bus_eq {b b' : Bus σ} {ss : List (Hub.Step σ)} (hj : Hub.Joined b ss b')
    (still : ∀ s ∈ ss, s.IsEmission) : ∀ s ∈ ss, s.hub.bus = b := by
  induction ss generalizing b with
  | nil => exact List.forall_mem_nil _
  | cons s ss ih =>
    obtain ⟨rfl, hj⟩ := hj
    obtain ⟨here, still⟩ := List.forall_mem_cons.mp still
    exact List.forall_mem_cons.mpr ⟨rfl, fun s' hs' => (ih hj still s' hs').trans here.after_eq⟩

theorem Routine.exists_step {d : Delivery σ} {r : Routine σ} {h : Hub σ} {u : Hub.Utterance σ}
    (hu : u ∈ r.utterances d h) : (⟨u.hub, .emit u.event⟩ : Hub.Step σ) ∈ r.steps d h := by
  obtain ⟨⟨hub, request⟩, hs, eq⟩ := List.mem_filterMap.mp hu
  cases request with
  | emit e =>
    cases eq
    exact hs
  | subscribe f k => cases eq
  | unsubscribe id => cases eq

/-- What is emitted in the turns of a delivery are steps of the delivery. -/
theorem Hub.exists_step (depth : Nat) (e : Event) (h : Hub σ) :
    ∀ t ∈ turns depth e h, ∀ u ∈ t.uttered, (⟨u.hub, .emit u.event⟩ : Step σ) ∈ allSteps depth e h := by
  induction depth generalizing e h with
  | zero => exact List.forall_mem_nil _
  | succ depth ih =>
    rw [turns, allSteps]
    generalize h.bus.hearers e = ls, h.begun e = h'
    induction ls generalizing h' with
    | nil => exact List.forall_mem_nil _
    | cons l ls rest =>
      intro t ht u hu
      rw [turnsOf, List.cons_append, List.mem_cons, List.mem_append, List.mem_flatMap] at ht
      rw [stepsOf, List.flatMap_append, List.mem_append, List.mem_flatMap]
      rcases ht with rfl | ⟨v, hv, ht⟩ | ht
      · exact .inl ⟨_, Routine.exists_step hu, List.mem_cons_self⟩
      · exact .inl ⟨_, Routine.exists_step hv, List.mem_cons_of_mem _ (ih v.event v.hub t ht u hu)⟩
      · right
        cases hr : (l.handler e).run (deliver depth) h' with
        | none =>
          rw [hr] at ht
          cases ht
        | some ran =>
          obtain ⟨o, h₁⟩ := ran
          rw [hr] at ht
          cases o with
          | ok => exact rest h₁ t ht u hu
          | error x => cases ht

/-- In a run without subscriptions and removals every emission finds the table as it was at first. -/
theorem Routine.bus_eq_of_still {depth : Nat} {r : Routine σ} {h : Hub σ}
    (still : ∀ s ∈ r.allSteps depth h, s.IsEmission) :
    (∀ u ∈ r.utterances (Hub.deliver depth) h, u.hub.bus = h.bus) ∧
      ∀ t ∈ r.turns depth h, ∀ u ∈ t.uttered, u.hub.bus = h.bus := by
  obtain ⟨b', joined, -⟩ := r.accounts (Hub.deliver_accounts depth) h
  have same : ∀ s ∈ r.allSteps depth h, s.hub.bus = h.bus := joined.bus_eq still
  refine ⟨fun u hu => ?_, fun t ht u hu => ?_⟩
  · exact same _ (List.mem_flatMap.mpr ⟨_, exists_step hu, List.mem_cons_self⟩)
  · obtain ⟨v, hv, ht⟩ := List.mem_flatMap.mp ht
    have within := Hub.exists_step depth v.event v.hub t ht u hu
    exact same _ (List.mem_flatMap.mpr ⟨_, exists_step hv, List.mem_cons_of_mem _ within⟩)

end Pagewalk
