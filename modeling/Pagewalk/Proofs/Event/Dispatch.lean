import Pagewalk.Event.Hub

/-!
# Delivery to a snapshot

An emission calls the listeners that stand in the table at its moment and hear the event, one after another, each
with what the one before it left, up to the first that gives up. What they do to the table meanwhile concerns the
emissions that come later, those among their own steps included. How deep deliveries may stand in one another does
not matter for an answer: what is answered within one bound is answered in the same way within every greater one.
-/

namespace Pagewalk

variable {σ : Type}

/-! ### The bound -/

/-- What the first way of delivering answers the second answers too. -/
def Extends (d d' : Delivery σ) : Prop := ∀ e h answer, d e h = some answer → d' e h = some answer

section Extending
variable {d d' : Delivery σ} {answer : Outcome × Hub σ}

theorem Routine.run_extends (ext : Extends d d') {r : Routine σ} {h : Hub σ} (hr : r.run d h = some answer) :
    r.run d' h = some answer := by
  induction r generalizing h with
  | done o => exact hr
  | emit e next ih =>
    cases hd : d e h with
    | none =>
      simp only [run, hd] at hr
      cases hr
    | some answered =>
      simp only [run, hd] at hr
      simp only [run, ext e h answered hd]
      exact ih _ hr
  | subscribe f k next _ ih => exact ih _ hr
  | unsubscribe id next ih => exact ih _ hr
  | count next ih => exact ih _ hr
  | note rs next ih => exact ih _ hr
  | openWindow document url config next ih => exact ih _ hr
  | evaluate page source next ih => exact ih _ hr
  | read next ih => exact ih _ hr
  | write m next ih => exact ih _ hr

theorem Hub.callAll_extends (ext : Extends d d') (e : Event) {ls : List (Listener σ)} {h : Hub σ}
    (hc : callAll d e ls h = some answer) : callAll d' e ls h = some answer := by
  induction ls generalizing h with
  | nil => exact hc
  | cons l ls ih =>
    rw [callAll] at hc ⊢
    cases hr : (l.handler e).run d h with
    | none =>
      rw [hr] at hc
      cases hc
    | some ran =>
      obtain ⟨o, h₁⟩ := ran
      rw [hr] at hc
      rw [Routine.run_extends ext hr]
      cases o with
      | ok => exact ih hc
      | error x => exact hc

end Extending

namespace Hub

/-- The hub from which the listeners of an emission are called. -/
def begun (e : Event) (h : Hub σ) : Hub σ := h.note (emissionRecord e (h.bus.hearers e).length)

theorem deliver_succ (depth : Nat) (e : Event) (h : Hub σ) :
    deliver (depth + 1) e h = callAll (deliver depth) e (h.bus.hearers e) (h.begun e) := rfl

theorem deliver_extends_succ (depth : Nat) : Extends (deliver depth : Delivery σ) (deliver (depth + 1)) := by
  intro e h answer hd
  induction depth generalizing e h answer with
  | zero => cases hd
  | succ depth ih =>
    rw [deliver_succ] at hd ⊢
    exact callAll_extends ih e hd

/-- What is answered within one bound is answered in the same way within every greater one. -/
theorem deliver_extends {depth depth' : Nat} (le : depth ≤ depth') :
    Extends (deliver depth : Delivery σ) (deliver depth') := by
  induction le with
  | refl => exact fun _ _ _ h => h
  | step _ ih => exact fun e h answer hd => deliver_extends_succ _ e h answer (ih e h answer hd)

/-- An event is delivered with this answer, and leaves this hub. -/
def Delivers (e : Event) (h : Hub σ) (o : Outcome) (h' : Hub σ) : Prop := ∃ depth, deliver depth e h = some (o, h')

end Hub

/-- A routine ends in this way, and leaves this hub. -/
def Routine.Ends (r : Routine σ) (h : Hub σ) (o : Outcome) (h' : Hub σ) : Prop :=
  ∃ depth, r.run (Hub.deliver depth) h = some (o, h')

theorem Routine.Ends.unique {r : Routine σ} {h h₁ h₂ : Hub σ} {o₁ o₂ : Outcome} (a : r.Ends h o₁ h₁)
    (b : r.Ends h o₂ h₂) : o₁ = o₂ ∧ h₁ = h₂ := by
  obtain ⟨m, hm⟩ := a
  obtain ⟨n, hn⟩ := b
  have hm' := run_extends (Hub.deliver_extends (Nat.le_max_left m n)) hm
  have hn' := run_extends (Hub.deliver_extends (Nat.le_max_right m n)) hn
  exact Prod.mk.inj (Option.some.inj (hm'.symm.trans hn'))

/-- A routine that emits an event goes on from what the delivery leaves, with its answer; the delivery starts from
the hub as it stands then. -/
theorem Routine.ends_emit_iff {e : Event} {next : Outcome → Routine σ} {h h' : Hub σ} {o : Outcome} :
    (emit e next).Ends h o h' ↔ ∃ o₁ h₁, Hub.Delivers e h o₁ h₁ ∧ (next o₁).Ends h₁ o h' := by
  constructor
  · rintro ⟨depth, hr⟩
    cases hd : Hub.deliver depth e h with
    | none =>
      simp only [run, hd] at hr
      cases hr
    | some answered =>
      simp only [run, hd] at hr
      exact ⟨answered.1, answered.2, ⟨depth, hd⟩, depth, hr⟩
  · rintro ⟨o₁, h₁, ⟨m, hd⟩, n, hr⟩
    have hd' := Hub.deliver_extends (Nat.le_max_left m n) e h _ hd
    refine ⟨max m n, ?_⟩
    simp only [run, hd']
    exact run_extends (Hub.deliver_extends (Nat.le_max_right m n)) hr

/-! ### Emissions within emissions -/

/-- What a bus may be asked for. -/
inductive Bus.Request (σ : Type) where
  | emit (e : Event)
  | subscribe (filter : EventFilter) (handler : Handler σ)
  | unsubscribe (id : ListenerId)

/-- A request to the bus of a hub, as the hub stands then. -/
structure Hub.Step (σ : Type) where
  hub : Hub σ
  request : Bus.Request σ

/-- The step is an emission without an answer. -/
def Hub.Step.Unanswered (d : Delivery σ) (s : Hub.Step σ) : Prop := ∃ e, s.request = .emit e ∧ d e s.hub = none

theorem Hub.Step.unanswered_emit {d : Delivery σ} {e : Event} {h : Hub σ} :
    (⟨h, .emit e⟩ : Hub.Step σ).Unanswered d ↔ d e h = none := by
  constructor
  · rintro ⟨_, ⟨⟩, hd⟩
    exact hd
  · exact fun hd => ⟨e, rfl, hd⟩

/-- The own steps of a routine in their order, up to its end or to an emission without an answer. -/
def Routine.steps (d : Delivery σ) : Routine σ → Hub σ → List (Hub.Step σ)
  | done _, _ => []
  | emit e next, h =>
    ⟨h, .emit e⟩ :: match d e h with
      | none => []
      | some (o, h) => (next o).steps d h
  | subscribe f k next, h =>
    let (r, bus) := h.bus.subscribe f k
    ⟨h, .subscribe f k⟩ :: (next r).steps d { h with bus }
  | unsubscribe id next, h =>
    let (b, bus) := h.bus.unsubscribe id
    ⟨h, .unsubscribe id⟩ :: (next b).steps d { h with bus }
  | count next, h => (next h.bus.count).steps d h
  | note rs next, h => (next ()).steps d { h with session := rs.foldl Session.note h.session }
  | openWindow document url config next, h =>
    let (w, session) := h.session.openWindow document url config
    (next ⟨w, document, url⟩).steps d { h with session }
  | evaluate page source next, h =>
    let (r, session) := h.session.evaluate .quiet page.window source
    (next r).steps d { h with session }
  | read next, h => (next h.memory).steps d h
  | write m next, h => (next ()).steps d { h with memory := m }

/-- A routine does not end exactly if one of its emissions is not answered. -/
theorem Routine.run_eq_none_iff {d : Delivery σ} {r : Routine σ} {h : Hub σ} :
    r.run d h = none ↔ ∃ s ∈ r.steps d h, s.Unanswered d := by
  induction r generalizing h with
  | done o => exact iff_of_false nofun fun ⟨_, hs, _⟩ => nomatch hs
  | emit e next ih =>
    rw [steps]
    simp only [List.mem_cons, exists_eq_or_imp, Hub.Step.unanswered_emit]
    cases hd : d e h with
    | none => simp only [run, hd, true_or]
    | some answered =>
      simp only [run, hd, ih]
      exact (or_iff_right nofun).symm
  | subscribe f k next _ ih =>
    rw [steps]
    simp only [List.mem_cons, exists_eq_or_imp]
    exact (ih _).trans (or_iff_right fun ⟨_, no, _⟩ => nomatch no).symm
  | unsubscribe id next ih =>
    rw [steps]
    simp only [List.mem_cons, exists_eq_or_imp]
    exact (ih _).trans (or_iff_right fun ⟨_, no, _⟩ => nomatch no).symm
  | count next ih => exact ih _
  | note rs next ih => exact ih _
  | openWindow document url config next ih => exact ih _
  | evaluate page source next ih => exact ih _
  | read next ih => exact ih _
  | write m next ih => exact ih _

namespace Hub

/-- The own steps of listeners that are called one after another. -/
def stepsOf (d : Delivery σ) (e : Event) : List (Listener σ) → Hub σ → List (Step σ)
  | [], _ => []
  | l :: ls, h =>
    (l.handler e).steps d h ++ match (l.handler e).run d h with
      | some (.ok (), h) => stepsOf d e ls h
      | _ => []

theorem callAll_eq_none_iff {d : Delivery σ} {e : Event} {ls : List (Listener σ)} {h : Hub σ} :
    callAll d e ls h = none ↔ ∃ s ∈ stepsOf d e ls h, s.Unanswered d := by
  induction ls generalizing h with
  | nil => exact iff_of_false nofun fun ⟨_, hs, _⟩ => nomatch hs
  | cons l ls ih =>
    have first := Routine.run_eq_none_iff (d := d) (r := l.handler e) (h := h)
    rw [callAll, stepsOf]
    simp only [List.mem_append, or_and_right, exists_or]
    rw [← first]
    cases hr : (l.handler e).run d h with
    | none => simp only [true_or]
    | some ran =>
      obtain ⟨o, h₁⟩ := ran
      cases o with
      | ok =>
        simp only [← ih]
        exact (or_iff_right nofun).symm
      | error x => exact iff_of_false nofun fun no => no.elim nofun fun ⟨_, hs, _⟩ => nomatch hs

/-- So many emissions stand in one another: each is made by a listener that is called for the one before. -/
def Deep : Nat → Event → Hub σ → Prop
  | 0, _, _ => True
  | depth + 1, e, h =>
    ∃ s ∈ stepsOf (deliver depth) e (h.bus.hearers e) (h.begun e), ∃ e', s.request = .emit e' ∧ Deep depth e' s.hub

/-- An event is not answered within a bound exactly if so many emissions stand in one another. -/
theorem deliver_eq_none_iff {depth : Nat} {e : Event} {h : Hub σ} : deliver depth e h = none ↔ Deep depth e h := by
  induction depth generalizing e h with
  | zero => exact iff_of_true rfl trivial
  | succ depth ih =>
    rw [deliver_succ, callAll_eq_none_iff, Deep]
    simp only [Step.Unanswered, ih]

end Hub

/-! ### Calls -/

/-- A call of a listener: the hub that it finds, its answer, and the hub that it leaves. -/
structure Call (σ : Type) where
  listener : Listener σ
  start : Hub σ
  outcome : Outcome
  finish : Hub σ

/-- Calls one after another, each from what the one before it left. -/
def Linked : Hub σ → List (Call σ) → Hub σ → Prop
  | h, [], h' => h' = h
  | h, c :: cs, h' => c.start = h ∧ Linked c.finish cs h'

/-- How some listeners are called in their order. -/
structure Called (ran : Call σ → Prop) (ls : List (Listener σ)) (h : Hub σ) (calls : List (Call σ)) (o : Outcome)
    (h' : Hub σ) : Prop where
  /-- The first of the listeners are called, each once and in their order. -/
  listeners : calls.map (·.listener) <+: ls
  ran : ∀ c ∈ calls, ran c
  linked : Linked h calls h'
  /-- All are called and none gives up, or the last call is the first to give up, and its error is the answer. -/
  answered : (calls.map (·.listener) = ls ∧ (∀ c ∈ calls, c.outcome = .ok ()) ∧ o = .ok ()) ∨
    ∃ before last x, calls = before ++ [last] ∧ (∀ c ∈ before, c.outcome = .ok ()) ∧ last.outcome = .error x ∧
      o = .error x

namespace Called
variable {ran : Call σ → Prop} {l : Listener σ} {ls : List (Listener σ)} {h h' : Hub σ} {c : Call σ}
  {calls : List (Call σ)} {o : Outcome}

theorem mono {ran' : Call σ → Prop} (hc : Called ran ls h calls o h') (weaker : ∀ c ∈ calls, ran c → ran' c) :
    Called ran' ls h calls o h' := ⟨hc.listeners, fun c hmem => weaker c hmem (hc.ran c hmem), hc.linked, hc.answered⟩

theorem nil : Called ran [] h [] (.ok ()) h :=
  ⟨List.nil_prefix, List.forall_mem_nil _, rfl, .inl ⟨rfl, List.forall_mem_nil _, rfl⟩⟩

theorem nil_iff : Called ran [] h calls o h' ↔ calls = [] ∧ o = .ok () ∧ h' = h := by
  constructor
  · rintro ⟨listeners, -, linked, answered⟩
    obtain rfl := List.map_eq_nil_iff.mp (List.prefix_nil.mp listeners)
    rcases answered with ⟨-, -, rfl⟩ | ⟨before, last, x, split, -⟩
    · exact ⟨rfl, rfl, linked⟩
    · simp at split
  · rintro ⟨rfl, rfl, rfl⟩
    exact nil

/-- A call that goes well before the calls of the others. -/
theorem cons {h₁ : Hub σ} (hran : ran ⟨l, h, .ok (), h₁⟩) (rest : Called ran ls h₁ calls o h') :
    Called ran (l :: ls) h (⟨l, h, .ok (), h₁⟩ :: calls) o h' := by
  refine ⟨List.cons_prefix_cons.mpr ⟨rfl, rest.listeners⟩, List.forall_mem_cons.mpr ⟨hran, rest.ran⟩,
    ⟨rfl, rest.linked⟩, ?_⟩
  rcases rest.answered with ⟨all, wells, ho⟩ | ⟨before, last, x, split, wells, hlast, ho⟩
  · exact .inl ⟨congrArg (l :: ·) all, List.forall_mem_cons.mpr ⟨rfl, wells⟩, ho⟩
  · exact .inr ⟨_ :: before, last, x, congrArg (_ :: ·) split, List.forall_mem_cons.mpr ⟨rfl, wells⟩, hlast, ho⟩

theorem stop {x : Error} (hran : ran ⟨l, h, .error x, h'⟩) :
    Called ran (l :: ls) h [⟨l, h, .error x, h'⟩] (.error x) h' := by
  refine ⟨List.cons_prefix_cons.mpr ⟨rfl, List.nil_prefix⟩, ?_, ⟨rfl, rfl⟩,
    .inr ⟨[], _, x, rfl, List.forall_mem_nil _, rfl, rfl⟩⟩
  intro c hc
  rw [List.mem_singleton.mp hc]
  exact hran

/-- The first of the listeners is called; if it goes well the others are called from what it left. -/
theorem cons_inv (hc : Called ran (l :: ls) h calls o h') :
    ∃ c rest, calls = c :: rest ∧ c.listener = l ∧ c.start = h ∧ ran c ∧
      ((c.outcome = .ok () ∧ Called ran ls c.finish rest o h') ∨
        ∃ x, c.outcome = .error x ∧ rest = [] ∧ o = .error x ∧ h' = c.finish) := by
  obtain ⟨listeners, hran, linked, answered⟩ := hc
  cases calls with
  | nil =>
    rcases answered with ⟨all, -⟩ | ⟨before, last, x, split, -⟩
    · cases all
    · simp at split
  | cons c rest =>
    obtain ⟨hl, listeners⟩ := List.cons_prefix_cons.mp listeners
    obtain ⟨hfirst, hran⟩ := List.forall_mem_cons.mp hran
    obtain ⟨hstart, linked⟩ := linked
    refine ⟨c, rest, rfl, hl, hstart, hfirst, ?_⟩
    rcases answered with ⟨all, wells, ho⟩ | ⟨before, last, x, split, wells, hlast, ho⟩
    · obtain ⟨well, wells⟩ := List.forall_mem_cons.mp wells
      exact .inl ⟨well, listeners, hran, linked, .inl ⟨(List.cons.inj all).2, wells, ho⟩⟩
    · cases before with
      | nil =>
        obtain ⟨rfl, rfl⟩ := List.cons.inj split
        exact .inr ⟨x, hlast, rfl, ho, linked⟩
      | cons b before =>
        obtain ⟨rfl, rfl⟩ := List.cons.inj split
        obtain ⟨well, wells⟩ := List.forall_mem_cons.mp wells
        exact .inl ⟨well, listeners, hran, linked, .inr ⟨before, last, x, rfl, wells, hlast, ho⟩⟩

/-- Where every call can go in one way only, so can all of them together. -/
theorem unique {h₁ : Hub σ} {calls₁ : List (Call σ)} {o₁ : Outcome}
    (functional : ∀ c c' : Call σ, ran c → ran c' → c.listener = c'.listener → c.start = c'.start →
      c.outcome = c'.outcome ∧ c.finish = c'.finish)
    (a : Called ran ls h calls o h') (b : Called ran ls h calls₁ o₁ h₁) : calls = calls₁ ∧ o = o₁ ∧ h' = h₁ := by
  induction ls generalizing h calls calls₁ with
  | nil =>
    obtain ⟨rfl, rfl, rfl⟩ := nil_iff.mp a
    obtain ⟨rfl, rfl, rfl⟩ := nil_iff.mp b
    exact ⟨rfl, rfl, rfl⟩
  | cons l ls ih =>
    obtain ⟨⟨l₁, s₁, o₁, f₁⟩, rest, rfl, rfl, rfl, hran, hrest⟩ := a.cons_inv
    obtain ⟨⟨l₂, s₂, o₂, f₂⟩, rest', rfl, rfl, rfl, hran', hrest'⟩ := b.cons_inv
    obtain ⟨rfl, rfl⟩ : o₁ = o₂ ∧ f₁ = f₂ := functional _ _ hran hran' rfl rfl
    -- Both begin with the same call; when it goes well, the others are called from the same hub.
    rcases hrest with ⟨well, others⟩ | ⟨x, rfl, rfl, rfl, rfl⟩
    · rcases hrest' with ⟨-, others'⟩ | ⟨x, failed, -⟩
      · obtain ⟨rfl, rfl, rfl⟩ := ih others others'
        exact ⟨rfl, rfl, rfl⟩
      · cases well.symm.trans failed
    · rcases hrest' with ⟨well, -⟩ | ⟨x', same, rfl, rfl, rfl⟩
      · cases well
      · cases same
        exact ⟨rfl, rfl, rfl⟩

end Called

namespace Hub

/-- Listeners are called as `callAll` calls them. -/
theorem callAll_eq_some_iff {d : Delivery σ} {e : Event} {ls : List (Listener σ)} {h h' : Hub σ} {o : Outcome} :
    callAll d e ls h = some (o, h') ↔
      ∃ calls, Called (fun c => (c.listener.handler e).run d c.start = some (c.outcome, c.finish)) ls h calls o h' := by
  induction ls generalizing h with
  | nil =>
    simp only [callAll, Option.some.injEq, Prod.mk.injEq, Called.nil_iff, exists_eq_left]
    exact and_congr eq_comm eq_comm
  | cons l ls ih =>
    rw [callAll]
    constructor
    · intro hc
      cases hr : (l.handler e).run d h with
      | none =>
        rw [hr] at hc
        cases hc
      | some ran =>
        obtain ⟨o₁, h₁⟩ := ran
        rw [hr] at hc
        cases o₁ with
        | ok =>
          obtain ⟨calls, hcalls⟩ := ih.mp hc
          exact ⟨⟨l, h, .ok (), h₁⟩ :: calls, .cons hr hcalls⟩
        | error x =>
          obtain ⟨rfl, rfl⟩ := Prod.mk.inj (Option.some.inj hc)
          exact ⟨[⟨l, h, .error x, h₁⟩], .stop hr⟩
    · rintro ⟨calls, hcalls⟩
      obtain ⟨c, rest, -, rfl, rfl, hran, ⟨well, others⟩ | ⟨x, failed, -, rfl, rfl⟩⟩ := hcalls.cons_inv
      · rw [hran, well]
        exact ih.mpr ⟨rest, others⟩
      · rw [hran, failed]

/-- The calls that an emission leads to: what the listeners do that hear it in the table as it stands. -/
def Dispatch (e : Event) (h : Hub σ) : List (Call σ) → Outcome → Hub σ → Prop :=
  Called (fun c => (c.listener.handler e).Ends c.start c.outcome c.finish) (h.bus.hearers e) (h.begun e)

/-- Calls that all end do so within one bound. -/
theorem exists_depth {e : Event} {calls : List (Call σ)}
    (ends : ∀ c ∈ calls, (c.listener.handler e).Ends c.start c.outcome c.finish) :
    ∃ depth, ∀ c ∈ calls, (c.listener.handler e).run (deliver depth) c.start = some (c.outcome, c.finish) := by
  induction calls with
  | nil => exact ⟨0, List.forall_mem_nil _⟩
  | cons c calls ih =>
    obtain ⟨⟨m, hm⟩, ends⟩ := List.forall_mem_cons.mp ends
    obtain ⟨n, hn⟩ := ih ends
    refine ⟨max m n, List.forall_mem_cons.mpr ⟨?_, fun c' hc' => ?_⟩⟩
    · exact Routine.run_extends (deliver_extends (Nat.le_max_left m n)) hm
    · exact Routine.run_extends (deliver_extends (Nat.le_max_right m n)) (hn c' hc')

theorem delivers_iff {e : Event} {h h' : Hub σ} {o : Outcome} :
    Delivers e h o h' ↔ ∃ calls, Dispatch e h calls o h' := by
  constructor
  · rintro ⟨depth, hd⟩
    cases depth with
    | zero => cases hd
    | succ depth =>
      rw [deliver_succ] at hd
      obtain ⟨calls, hcalls⟩ := callAll_eq_some_iff.mp hd
      exact ⟨calls, hcalls.mono fun c _ hran => ⟨depth, hran⟩⟩
  · rintro ⟨calls, hcalls⟩
    obtain ⟨depth, hran⟩ := exists_depth hcalls.ran
    refine ⟨depth + 1, ?_⟩
    rw [deliver_succ]
    exact callAll_eq_some_iff.mpr ⟨calls, hcalls.mono fun c hmem _ => hran c hmem⟩

section Dispatched
variable {e : Event} {h h' h₁ : Hub σ} {calls calls₁ : List (Call σ)} {o o₁ : Outcome}

theorem Dispatch.unique (a : Dispatch e h calls o h') (b : Dispatch e h calls₁ o₁ h₁) :
    calls = calls₁ ∧ o = o₁ ∧ h' = h₁ := by
  refine Called.unique (fun c c' ends ends' same start => ?_) a b
  rw [same, start] at ends
  exact ends.unique ends'

/-- Whoever is called stood in the table when the event was emitted, and hears it. -/
theorem Dispatch.mem_hearers (hd : Dispatch e h calls o h') {c : Call σ} (hc : c ∈ calls) :
    c.listener ∈ h.bus.listeners ∧ c.listener.filter.admits e = true :=
  List.mem_filter.mp (hd.listeners.subset (List.mem_map_of_mem hc))

/-- With a good answer everyone was called who stood in the table and hears the event. -/
theorem Dispatch.exists_call (hd : Dispatch e h calls (.ok ()) h') {l : Listener σ} (hl : l ∈ h.bus.listeners)
    (hears : l.filter.admits e = true) : ∃ c ∈ calls, c.listener = l := by
  rcases hd.answered with ⟨all, -⟩ | ⟨before, last, x, -, -, -, no⟩
  · have hmem : l ∈ h.bus.hearers e := List.mem_filter.mpr ⟨hl, hears⟩
    rw [← all] at hmem
    exact List.mem_map.mp hmem
  · cases no

/-- Where the listeners of the table have different numbers, so have those who are called. -/
theorem Dispatch.nodup (hd : Dispatch e h calls o h') (nodup : (h.bus.listeners.map (·.id)).Nodup) :
    (calls.map (·.listener.id)).Nodup := by
  have sub : (calls.map (·.listener)).Sublist h.bus.listeners := hd.listeners.sublist.trans List.filter_sublist
  have called : calls.map (·.listener.id) = (calls.map (·.listener)).map (·.id) := (List.map_map ..).symm
  rw [called]
  exact nodup.sublist (sub.map _)

end Dispatched

/-- An event is delivered from a hub exactly as it is dispatched to the listeners that stand in the table at that
moment and hear it: the first of them are called in their order, each once and each with what the one before it
left, until one gives up or all were called; the answer is the error of the one that gave up, and good otherwise.
This goes in one way only, and within a bound it fails only where so many emissions stand in one another. Whoever is
called stood in the table at the moment of the emission, whoever stood there and hears the event is called unless
another gives up before, and nobody twice, whatever the listeners do to the table meanwhile. An emission among the
steps of a listener is delivered from the hub as it stands at that step, and the listener goes on from what the
delivery leaves. -/
theorem delivers_snapshot (e : Event) (h : Hub σ) :
    (∀ o h', Delivers e h o h' ↔ ∃ calls, Dispatch e h calls o h') ∧
    (∀ calls calls₁ o o₁ h' h₁, Dispatch e h calls o h' → Dispatch e h calls₁ o₁ h₁ →
      calls = calls₁ ∧ o = o₁ ∧ h' = h₁) ∧
    (∀ depth, deliver depth e h = none ↔ Deep depth e h) ∧
    (∀ calls o h', Dispatch e h calls o h' →
      (∀ c ∈ calls, c.listener ∈ h.bus.listeners ∧ c.listener.filter.admits e = true) ∧
      (o = .ok () → ∀ l ∈ h.bus.listeners, l.filter.admits e = true → ∃ c ∈ calls, c.listener = l) ∧
      ((h.bus.listeners.map (·.id)).Nodup → (calls.map (·.listener.id)).Nodup)) ∧
    (∀ next o h', (Routine.emit e next).Ends h o h' ↔ ∃ o₁ h₁, Delivers e h o₁ h₁ ∧ (next o₁).Ends h₁ o h') := by
  refine ⟨fun o h' => delivers_iff, fun calls calls₁ o o₁ h' h₁ => Dispatch.unique, fun depth => deliver_eq_none_iff,
    fun calls o h' hd => ?_, fun next o h' => Routine.ends_emit_iff⟩
  refine ⟨fun c hc => hd.mem_hearers hc, fun good l hl hears => ?_, hd.nodup⟩
  subst good
  exact hd.exists_call hl hears

/-- Writes down the names of the events that it hears. -/
def scribe (mark : String) : Handler (List String) := fun e => .change (· ++ [mark ++ e.name]) fun _ => .ok

/-- Adds a listener and emits an event itself. -/
def host : Handler (List String) := fun _ =>
  .subscribe (.kind .traverseEnd) (scribe "late ") fun _ => .announce (.traverseEnd "r") fun _ => .ok

-- The listener that is added on the way hears the emission that comes after it, and that one only.
example :
    let evening : Routine (List String) := .subscribe (.kind .traverseStart) host fun _ =>
      .subscribe .all (scribe "all ") fun _ => .announce (.traverseStart "r") fun _ => .ok
    (evening.run (deliver 2) ⟨{}, {}, []⟩).map (·.2.memory) =
      some ["all traverse::end", "late traverse::end", "all traverse::start"] := by decide

end Hub

end Pagewalk
