import Pagewalk.Event.Hub

/-!
# What a routine emits itself

The listeners that hear an emission may emit events in their turn; those are not the routine's own. The own
emissions of a routine are listed here with their answers, next to how the routine ends. A routine that announces
events one after another tells a first part of them, and the answer to the last one decides how it ends.
-/

namespace Pagewalk

/-- An event that a routine emitted, with the answer; there is none if the delivery stood too deep in others. -/
structure Emission where
  event : Event
  answer : Option Outcome

/-- The emission of an event to which no listener objected. -/
def Emission.heard (e : Event) : Emission := ⟨e, some (.ok ())⟩

namespace Routine
variable {σ : Type}

/-- The own emissions of a routine in their order, up to its end or to an emission without an answer. -/
def emissions (deliver : Delivery σ) : Routine σ → Hub σ → List Emission
  | done _, _ => []
  | emit e next, h =>
    match deliver e h with
    | none => [⟨e, none⟩]
    | some (o, h) => ⟨e, some o⟩ :: (next o).emissions deliver h
  | subscribe f k next, h =>
    let (r, bus) := h.bus.subscribe f k
    (next r).emissions deliver { h with bus }
  | unsubscribe id next, h =>
    let (b, bus) := h.bus.unsubscribe id
    (next b).emissions deliver { h with bus }
  | count next, h => (next h.bus.count).emissions deliver h
  | note rs next, h => (next ()).emissions deliver { h with session := rs.foldl Session.note h.session }
  | openWindow d url config next, h =>
    let (w, session) := h.session.openWindow d url config
    (next ⟨w, d, url⟩).emissions deliver { h with session }
  | evaluate page source next, h =>
    let (r, session) := h.session.evaluate .quiet page.window source
    (next r).emissions deliver { h with session }
  | read next, h => (next h.memory).emissions deliver h
  | write m next, h => (next ()).emissions deliver { h with memory := m }

/-- How a routine ends, if it does. -/
def result (deliver : Delivery σ) (r : Routine σ) (h : Hub σ) : Option Outcome := (r.run deliver h).map Prod.fst

section Steps
variable {deliver : Delivery σ} {h h' : Hub σ}

theorem emissions_emit_none {e : Event} {next : Outcome → Routine σ} (hd : deliver e h = none) :
    (emit e next).emissions deliver h = [⟨e, none⟩] := by
  simp only [emissions, hd]

theorem result_emit_none {e : Event} {next : Outcome → Routine σ} (hd : deliver e h = none) :
    (emit e next).result deliver h = none := by
  simp only [result, run, hd, Option.map_none]

theorem emissions_emit_some {e : Event} {next : Outcome → Routine σ} {o : Outcome} (hd : deliver e h = some (o, h')) :
    (emit e next).emissions deliver h = ⟨e, some o⟩ :: (next o).emissions deliver h' := by
  simp only [emissions, hd]

theorem result_emit_some {e : Event} {next : Outcome → Routine σ} {o : Outcome} (hd : deliver e h = some (o, h')) :
    (emit e next).result deliver h = (next o).result deliver h' := by
  simp only [result, run, hd]

end Steps

/-! ### Telling events in order -/

/-- How a routine went that had a list of events to tell: all were told and it ended well, or it ended with the
answer to the first that was not heard well. -/
inductive Tells (es : List Event) : List Emission → Option Outcome → Prop where
  | all : Tells es (es.map .heard) (some (.ok ()))
  | stopped {before after : List Event} {e : Event} {answer : Option Outcome} (split : es = before ++ e :: after)
      (unheard : answer ≠ some (.ok ())) : Tells es (before.map .heard ++ [⟨e, answer⟩]) answer

namespace Tells
variable {es : List Event} {own own' : List Emission} {answer answer' : Option Outcome}

/-- What is told first does not change how the rest went. -/
theorem cons (e : Event) (t : Tells es own answer) : Tells (e :: es) (.heard e :: own) answer := by
  cases t with
  | all => exact (.all : Tells (e :: es) ((e :: es).map .heard) _)
  | @stopped before after x _ split unheard =>
    have split' : e :: es = (e :: before) ++ x :: after := congrArg (e :: ·) split
    exact .stopped split' unheard

theorem append (fs : List Event) (t : Tells es own answer) : Tells (fs ++ es) (fs.map .heard ++ own) answer := by
  induction fs with
  | nil => exact t
  | cons f fs ih => exact ih.cons f

/-- Only a first part is told. -/
theorem events_begin (t : Tells es own answer) : own.map (·.event) <+: es := by
  cases t with
  | all => exact ⟨[], by simp [Emission.heard, Function.comp_def]⟩
  | @stopped before after x _ split unheard => exact ⟨after, by simp [split, Emission.heard, Function.comp_def]⟩

/-- It ended well exactly if everything was told and heard well. -/
theorem ended_well_iff (t : Tells es own answer) : answer = some (.ok ()) ↔ own = es.map .heard := by
  cases t with
  | all => simp
  | @stopped before after x _ split unheard =>
    refine iff_of_false unheard fun same => ?_
    have last : (⟨x, answer⟩ : Emission) ∈ es.map .heard := same ▸ List.mem_append_right _ (List.mem_singleton_self _)
    obtain ⟨e, -, he⟩ := List.mem_map.mp last
    exact unheard (congrArg Emission.answer he).symm

/-- Where all emissions went well, all events were told. -/
theorem all_of_heard (t : Tells es own answer) (h : ∀ a ∈ own, a.answer = some (.ok ())) :
    own.map (·.event) = es ∧ answer = some (.ok ()) := by
  cases t with
  | all => exact ⟨by simp [Emission.heard, Function.comp_def], rfl⟩
  | stopped split unheard => exact absurd (h _ (List.mem_append_right _ (List.mem_singleton_self _))) unheard

/-- An emission that did not go well is the last one, and its answer is the result. -/
theorem stops_at (t : Tells es own answer) {before after : List Emission} {a : Emission}
    (split : own = before ++ a :: after) (unheard : a.answer ≠ some (.ok ())) : after = [] ∧ answer = a.answer := by
  cases t with
  | all =>
    have ha : a ∈ es.map .heard := split ▸ List.mem_append_right _ (List.mem_cons_self ..)
    obtain ⟨e, -, rfl⟩ := List.mem_map.mp ha
    exact absurd rfl unheard
  | @stopped told _ x _ _ _ =>
    rcases List.eq_nil_or_concat after with rfl | ⟨rest, last, rfl⟩
    · have hlast := (List.append_inj' split rfl).2
      exact ⟨rfl, congrArg Emission.answer (List.singleton_inj.mp hlast)⟩
    · -- Otherwise the emission stands among those that were heard well.
      rw [List.concat_eq_append, ← List.cons_append, ← List.append_assoc] at split
      have hmem : a ∈ told.map .heard :=
        (List.append_inj' split rfl).1 ▸ List.mem_append_right _ (List.mem_cons_self ..)
      obtain ⟨e, -, rfl⟩ := List.mem_map.mp hmem
      exact absurd rfl unheard

/-- A result that is not good is the answer to the last emission. -/
theorem last_of_unheard (t : Tells es own answer) (h : answer ≠ some (.ok ())) :
    ∃ e, own.getLast? = some ⟨e, answer⟩ := by
  cases t with
  | all => exact absurd rfl h
  | @stopped before _ x _ _ _ => exact ⟨x, by simp⟩

/-- What was told depends on the answers only. -/
theorem eq_of_answers (t : Tells es own answer) (t' : Tells es own' answer')
    (same : own.map (·.answer) = own'.map (·.answer)) : own.map (·.event) = own'.map (·.event) := by
  have hlen : own.length = own'.length := by simpa using congrArg List.length same
  have hp := List.prefix_iff_eq_take.mp t.events_begin
  have hp' := List.prefix_iff_eq_take.mp t'.events_begin
  rw [hp, hp', List.length_map, List.length_map, hlen]

end Tells

section Announcing
variable (deliver : Delivery σ)

/-- An event that is announced: the routine goes on behind it, or it ends with it as it was not heard well. -/
theorem announce_cases (e : Event) (next : Unit → Routine σ) (h : Hub σ) :
    (∃ h', (announce e next).emissions deliver h = .heard e :: (next ()).emissions deliver h' ∧
        (announce e next).result deliver h = (next ()).result deliver h') ∨
      ∃ answer, answer ≠ some (.ok ()) ∧ (announce e next).emissions deliver h = [⟨e, answer⟩] ∧
        (announce e next).result deliver h = answer := by
  unfold announce
  cases hd : deliver e h with
  | none => exact Or.inr ⟨none, nofun, emissions_emit_none hd, result_emit_none hd⟩
  | some answer =>
    obtain ⟨o, h'⟩ := answer
    rw [emissions_emit_some hd, result_emit_some hd]
    cases o with
    | error x => exact Or.inr ⟨some (.error x), nofun, rfl, rfl⟩
    | ok u => exact Or.inl ⟨h', rfl, rfl⟩

/-- Events that are announced one after another: the routine goes on behind the last, or it ends with the first
that is not heard well. -/
theorem announceAll_cases (es : List Event) (next : Unit → Routine σ) (h : Hub σ) :
    (∃ h', (announceAll es next).emissions deliver h = es.map .heard ++ (next ()).emissions deliver h' ∧
        (announceAll es next).result deliver h = (next ()).result deliver h') ∨
      ∃ before e after answer, es = before ++ e :: after ∧ answer ≠ some (.ok ()) ∧
        (announceAll es next).emissions deliver h = before.map .heard ++ [⟨e, answer⟩] ∧
        (announceAll es next).result deliver h = answer := by
  induction es generalizing h with
  | nil => exact Or.inl ⟨h, rfl, rfl⟩
  | cons e es ih =>
    rw [announceAll]
    rcases announce_cases deliver e (fun _ => announceAll es next) h with
      ⟨h', hown, hres⟩ | ⟨answer, unheard, hown, hres⟩
    · rw [hown, hres]
      rcases ih h' with ⟨h'', hown, hres⟩ | ⟨before, x, after, answer, rfl, unheard, hown, hres⟩
      · exact Or.inl ⟨h'', congrArg (Emission.heard e :: ·) hown, hres⟩
      · exact Or.inr ⟨e :: before, x, after, answer, rfl, unheard, congrArg (Emission.heard e :: ·) hown, hres⟩
    · exact Or.inr ⟨[], e, es, answer, rfl, unheard, hown, hres⟩

/-- Announcing events before a routine that tells others tells all of them. -/
theorem tells_announceAll (es fs : List Event) (next : Unit → Routine σ)
    (rest : ∀ h, Tells fs ((next ()).emissions deliver h) ((next ()).result deliver h)) (h : Hub σ) :
    Tells (es ++ fs) ((announceAll es next).emissions deliver h) ((announceAll es next).result deliver h) := by
  rcases announceAll_cases deliver es next h with ⟨h', hown, hres⟩ | ⟨before, e, after, answer, rfl, unheard, hown, hres⟩
  · rw [hown, hres]
    exact (rest h').append es
  · rw [hown, hres]
    have split : (before ++ e :: after) ++ fs = before ++ e :: (after ++ fs) := List.append_assoc ..
    exact .stopped split unheard

theorem announceAll_append (es fs : List Event) (next : Unit → Routine σ) :
    announceAll (es ++ fs) next = announceAll es fun _ => announceAll fs next := by
  induction es with
  | nil => rfl
  | cons e es ih => simp only [List.cons_append, announceAll, ih]

end Announcing

end Routine

end Pagewalk
