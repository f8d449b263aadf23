import Pagewalk.Proofs.Event.Renaming
import Pagewalk.Proofs.Logs

/-!
# Bystanders

A bystander is a listener that always ends well and asks nothing of the bus. It may come at any point of a run: at any
step of any routine, however deep this stands in deliveries. The run with the bystander goes beside the run without
it: each step leaves two hubs that are the same up to the numbers of the listeners, the log, the bystander's place in
the table and what it remembers (`Mirrors`). By induction on the routine, on the listeners that are called and on the
depth of deliveries the same holds of what every emission leads to.
-/

namespace Pagewalk

open Equiv (Perm)

variable {σ π : Type}

/-! ### A run with a bystander -/

/-- What the bystander remembers beside the others. -/
structure Company (σ π : Type) where
  shared : σ
  own : π
  /-- So many steps are made before the bystander comes; there is none once it has come. -/
  wait : Option Nat

/-- The routine ends well and asks nothing of the bus and the session, beside the records that it writes. -/
inductive Routine.IsPassive : Routine π → Prop
  | ok : IsPassive .ok
  | note (rs : List Log.Record) {next : Unit → Routine π} (rest : IsPassive (next ())) : IsPassive (.note rs next)
  | read {next : π → Routine π} (rest : ∀ m, IsPassive (next m)) : IsPassive (.read next)
  | write (m : π) {next : Unit → Routine π} (rest : IsPassive (next ())) : IsPassive (.write m next)

/-- A listener that looks on. -/
structure Bystander (π : Type) where
  filter : EventFilter
  handler : Handler π
  passive : ∀ e, (handler e).IsPassive

/-- The routine on a part of a greater memory, with something to do before each of its steps. -/
def Routine.carried {τ : Type} (get : τ → σ) (set : σ → τ → τ) (before : Routine τ → Routine τ) :
    Routine σ → Routine τ
  | done o => before (done o)
  | emit e next => before (emit e fun o => (next o).carried get set before)
  | subscribe f k next =>
    before (subscribe f (fun e => (k e).carried get set before) fun a => (next a).carried get set before)
  | unsubscribe id next => before (unsubscribe id fun b => (next b).carried get set before)
  | count next => before (count fun n => (next n).carried get set before)
  | note rs next => before (note rs fun u => (next u).carried get set before)
  | openWindow d url config next => before (openWindow d url config fun p => (next p).carried get set before)
  | evaluate page source next => before (evaluate page source fun a => (next a).carried get set before)
  | read next => before (read fun m => (next (get m)).carried get set before)
  | write x next => before (read fun m => write (set x m) fun u => (next u).carried get set before)

namespace Bystander

/-- What the bystander does, on its part of the memory. -/
def listen (b : Bystander π) : Handler (Company σ π) := fun e =>
  (b.handler e).carried (·.own) (fun x m => { m with own := x }) id

/-- Counts the steps down, and lets the bystander come when none is left. -/
def arrive (b : Bystander π) (rest : Routine (Company σ π)) : Routine (Company σ π) :=
  .read fun m => match m.wait with
    | none => rest
    | some 0 => .write { m with wait := none } fun _ => .subscribe b.filter b.listen fun _ => rest
    | some (n + 1) => .write { m with wait := some n } fun _ => rest

/-- The routine and all listeners that it adds, with the bystander coming on the way. -/
def joining (b : Bystander π) (r : Routine σ) : Routine (Company σ π) :=
  r.carried (·.shared) (fun x m => { m with shared := x }) b.arrive

/-- The hub after a step was counted. -/
def ticked (b : Bystander π) (h : Hub (Company σ π)) : Hub (Company σ π) :=
  match h.memory.wait with
  | none => h
  | some 0 => { h with
      bus := (h.bus.subscribe b.filter b.listen).2
      memory := { h.memory with wait := none } }
  | some (n + 1) => { h with memory := { h.memory with wait := some n } }

variable {b : Bystander π} {d : Delivery (Company σ π)} {rest : Routine (Company σ π)} {h : Hub (Company σ π)}

theorem run_arrive : (b.arrive rest).run d h = rest.run d (b.ticked h) := by
  obtain ⟨bus, session, shared, own, wait⟩ := h
  rcases wait with _ | _ | n <;> rfl

theorem utterances_arrive : (b.arrive rest).utterances d h = rest.utterances d (b.ticked h) := by
  obtain ⟨bus, session, shared, own, wait⟩ := h
  rcases wait with _ | _ | n <;> rfl

end Bystander

/-! ### Lists side by side -/

/-- Two lists go side by side where the second has more elements of a certain sort between the others. -/
inductive Beside {α β : Type} (R : α → β → Prop) (more : β → Prop) : List α → List β → Prop
  | nil : Beside R more [] []
  | both {a : α} {b : β} {as : List α} {bs : List β} (pair : R a b) (rest : Beside R more as bs) :
    Beside R more (a :: as) (b :: bs)
  | more {b : β} {as : List α} {bs : List β} (one : more b) (rest : Beside R more as bs) : Beside R more as (b :: bs)

namespace Beside
variable {α β : Type} {R R' : α → β → Prop} {more more' : β → Prop} {as as₁ : List α} {bs bs₁ : List β}

theorem mono (h : Beside R more as bs) (hR : ∀ a b, R a b → R' a b) (hmore : ∀ b, more b → more' b) :
    Beside R' more' as bs := by
  induction h with
  | nil => exact .nil
  | both pair _ ih => exact .both (hR _ _ pair) ih
  | more one _ ih => exact .more (hmore _ one) ih

theorem append (h : Beside R more as bs) (h₁ : Beside R more as₁ bs₁) : Beside R more (as ++ as₁) (bs ++ bs₁) := by
  induction h with
  | nil => exact h₁
  | both pair _ ih => exact .both pair ih
  | more one _ ih => exact .more one ih

theorem filter {p : α → Bool} {q : β → Bool} (h : Beside R more as bs) (same : ∀ a b, R a b → q b = p a) :
    Beside R more (as.filter p) (bs.filter q) := by
  induction h with
  | nil => exact .nil
  | @both a b as bs pair _ ih =>
    rw [List.filter_cons, List.filter_cons, same a b pair]
    cases p a with
    | true => exact .both pair ih
    | false => exact ih
  | @more b as bs one _ ih =>
    rw [List.filter_cons]
    cases q b with
    | true => exact .more one ih
    | false => exact ih

theorem any {p : α → Bool} {q : β → Bool} (h : Beside R more as bs) (same : ∀ a b, R a b → q b = p a)
    (none : ∀ b, more b → q b = false) : bs.any q = as.any p := by
  induction h with
  | nil => rfl
  | both pair _ ih => rw [List.any_cons, List.any_cons, ih, same _ _ pair]
  | more one _ ih => rw [List.any_cons, ih, none _ one, Bool.false_or]

/-- Where the elements of the further sort are left out, the lists pair off. -/
theorem map_filter {γ : Type} {f : α → γ} {g : β → γ} {q : β → Bool} (h : Beside R more as bs)
    (same : ∀ a b, R a b → q b = true ∧ g b = f a) (none : ∀ b, more b → q b = false) :
    (bs.filter q).map g = as.map f := by
  induction h with
  | nil => rfl
  | both pair _ ih =>
    obtain ⟨stays, eq⟩ := same _ _ pair
    rw [List.filter_cons_of_pos stays, List.map_cons, List.map_cons, ih, eq]
  | more one _ ih => rw [List.filter_cons_of_neg (Bool.eq_false_iff.mp (none _ one)), ih]

theorem of_mem (h : Beside R more as bs) {b : β} (hb : b ∈ bs) : (∃ a, R a b) ∨ more b := by
  induction h with
  | nil => cases hb
  | both pair _ ih =>
    rcases List.mem_cons.mp hb with rfl | hb
    · exact .inl ⟨_, pair⟩
    · exact ih hb
  | more one _ ih =>
    rcases List.mem_cons.mp hb with rfl | hb
    · exact .inr one
    · exact ih hb

end Beside

/-- A step gives no number near the last one. -/
def Hub.Step.IsEarly (x : Hub.Step σ) : Prop :=
  match x.request with
  | .subscribe _ _ => x.hub.bus.next + 1 < Bus.lastNumber
  | _ => True

def Hub.ledTo (within : Event → Hub σ → List (Hub.Turn σ)) (us : List (Hub.Utterance σ)) : List (Hub.Turn σ) :=
  us.flatMap fun u => within u.event u.hub

def Hub.Turn.emissions (t : Hub.Turn σ) : List Emission := t.uttered.map fun u => ⟨u.event, u.answer⟩

/-! ### Hubs side by side -/

theorem Bus.not_isFull_of_unlimited {b : Bus σ} (unlimited : b.config.maxListeners = 0) : b.isFull = false := by
  simp [isFull, unlimited]

section Mirrored
variable (b : Bystander π) {s t : Stage}

/-- The listener is the bystander. -/
structure Stage.IsGuest (s : Stage) (l : Listener (Company σ π)) : Prop where
  id : s.guest = some l.id.number
  filter : l.filter = b.filter
  handler : l.handler = b.listen

theorem Stage.IsGuest.later {l : Listener (Company σ π)} (h : s.IsGuest b l) (later : s.Leads t) : t.IsGuest b l := by
  refine ⟨?_, h.filter, h.handler⟩
  rcases later.guest with same | ⟨none, -⟩
  · rw [same, h.id]
  · cases none.symm.trans h.id

/-- A turn in the run without the bystander, and the same one in the run with it. -/
structure Stage.Echoes (s : Stage) (t : Hub.Turn σ) (t' : Hub.Turn (Company σ π)) : Prop where
  given : t.listener.id.number < s.next
  id : t'.listener.id = s.moved t.listener.id
  event : t'.event = t.event
  emissions : t'.emissions = t.emissions

theorem Stage.Echoes.later {x : Hub.Turn σ} {x' : Hub.Turn (Company σ π)} (h : s.Echoes x x') (later : s.Leads t) :
    t.Echoes x x' where
  given := h.given.trans_le later.next
  id := h.id.trans (later.moved_eq h.given).symm
  event := h.event
  emissions := h.emissions

/-- The turns are the same up to those of the bystander and the numbers of the listeners. -/
def Stage.Retold (s : Stage) : List (Hub.Turn σ) → List (Hub.Turn (Company σ π)) → Prop :=
  Beside s.Echoes fun t' => s.IsGuest b t'.listener

theorem Stage.Retold.later {ts : List (Hub.Turn σ)} {ts' : List (Hub.Turn (Company σ π))} (h : s.Retold b ts ts')
    (later : s.Leads t) : t.Retold b ts ts' :=
  h.mono (fun _ _ pair => pair.later later) fun _ guest => guest.later b later

/-- Without the calls of the bystander the turns are the same but for the names of the listeners. -/
theorem Stage.Retold.others {ts : List (Hub.Turn σ)} {ts' : List (Hub.Turn (Company σ π))} (h : s.Retold b ts ts') :
    ∃ (guest : ListenerId) (ρ : Perm ListenerId),
      ((ts'.filter fun t => t.listener.id != guest).map fun t => (t.listener.id, t.event, t.emissions)) =
        ts.map (fun t => (ρ t.listener.id, t.event, t.emissions)) ∧
      ∀ t ∈ ts', t.listener.id = guest → t.listener.filter = b.filter ∧ t.listener.handler = b.listen := by
  obtain ⟨ρ, allows⟩ := s.exists_allows
  -- While the bystander has not come, its place is taken by a number that nobody has.
  let guest : ListenerId := ⟨s.guest.getD s.next⟩
  have other {x : Hub.Turn σ} {x' : Hub.Turn (Company σ π)} (echo : s.Echoes x x') : x'.listener.id ≠ guest := by
    rw [echo.id]
    cases hs : s.guest with
    | none =>
      intro same
      rw [moved, hs] at same
      have last : x.listener.id.number = s.next := by
        rw [show x.listener.id = guest from same]
        simp [guest, hs]
      exact absurd last echo.given.ne
    | some k =>
      have named : guest = ⟨k⟩ := by simp [guest, hs]
      rw [named]
      exact Stage.moved_ne hs
  have named {x' : Hub.Turn (Company σ π)} (there : s.IsGuest b x'.listener) : x'.listener.id = guest := by
    simp [guest, there.id]
  refine ⟨guest, ρ, h.map_filter (fun x x' echo => ⟨bne_iff_ne.mpr (other echo), ?_⟩) fun x' there => ?_, ?_⟩
  · rw [allows _ echo.given, echo.id, echo.event, echo.emissions]
  · exact bne_eq_false_iff_eq.mpr (named there)
  · intro x' hx' same
    rcases h.of_mem hx' with ⟨x, echo⟩ | there
    · exact absurd same (other echo)
    · exact ⟨there.filter, there.handler⟩

variable [MulAction (Perm ListenerId) σ]

/-- A listener in the run without the bystander, and the same one in the run with it. -/
structure Stage.Pairs (s : Stage) (l : Listener σ) (l' : Listener (Company σ π)) : Prop where
  given : l.id.number < s.next
  id : l'.id = s.moved l.id
  filter : l'.filter = l.filter
  neverCounts : ∀ e, (l.handler e).NeverCounts
  handler : ∃ k : Handler σ, l'.handler = (fun e => b.joining (k e)) ∧ ∀ e, s.Same (l.handler e) (k e)

theorem Stage.Pairs.later {l : Listener σ} {l' : Listener (Company σ π)} (h : s.Pairs b l l') (later : s.Leads t) :
    t.Pairs b l l' where
  given := h.given.trans_le later.next
  id := h.id.trans (later.moved_eq h.given).symm
  filter := h.filter
  neverCounts := h.neverCounts
  handler := h.handler.imp fun _ ⟨eq, same⟩ => ⟨eq, fun e => (same e).later later⟩

/-- The tables are the same up to the bystander's place and the numbers of the listeners. -/
def Stage.Tables (s : Stage) : List (Listener σ) → List (Listener (Company σ π)) → Prop :=
  Beside (s.Pairs b) (s.IsGuest b)

theorem Stage.Tables.later {ls : List (Listener σ)} {ls' : List (Listener (Company σ π))} (h : s.Tables b ls ls')
    (later : s.Leads t) : t.Tables b ls ls' :=
  h.mono (fun _ _ pair => pair.later b later) fun _ guest => guest.later b later

/-- The hubs are the same at a stage, up to the bystander. -/
structure Mirrors (s : Stage) (h : Hub σ) (h' : Hub (Company σ π)) : Prop where
  next : h.bus.next = s.next
  /-- The next number in the run with the bystander is the one that the next listener has there. -/
  next' : ⟨h'.bus.next⟩ = s.moved ⟨s.next⟩
  few : s.next < Bus.lastNumber
  unlimited : h.bus.config.maxListeners = 0
  unlimited' : h'.bus.config.maxListeners = 0
  tables : s.Tables b h.bus.listeners h'.bus.listeners
  session : h.session.SameButLog h'.session
  memory : s.Recalls h.memory h'.memory.shared
  waits : h'.memory.wait = none ↔ s.guest ≠ none

namespace Mirrors
variable {b} {h : Hub σ} {h' : Hub (Company σ π)}

theorem next_lt (m : Mirrors b s h h') : h'.bus.next ≤ s.next + 1 := by
  have le := s.moved_le ⟨s.next⟩
  rwa [← m.next'] at le

theorem subscribe (m : Mirrors b s h h') (more : s.next + 1 < Bus.lastNumber) {f : EventFilter} {k k' : Handler σ}
    (neverCounts : ∀ e, (k e).NeverCounts) (same : ∀ e, s.Same (k e) (k' e)) :
    let given := h.bus.subscribe f k
    let given' := h'.bus.subscribe f fun e => b.joining (k' e)
    given.1 = .ok ⟨s.next⟩ ∧ given'.1 = .ok (s.grown.moved ⟨s.next⟩) ∧
      Mirrors b s.grown { h with bus := given.2 } { h' with bus := given'.2 } := by
  have later := Stage.Leads.grown s
  have room : h.bus.isFull = false := Bus.not_isFull_of_unlimited m.unlimited
  have room' : h'.bus.isFull = false := Bus.not_isFull_of_unlimited m.unlimited'
  have next' : (⟨h'.bus.next⟩ : ListenerId) = s.grown.moved ⟨s.next⟩ := m.next'
  intro given given'
  have hg : given = _ := Bus.subscribe_of_room room
  have hg' : given' = _ := Bus.subscribe_of_room room'
  rw [hg, hg']
  refine ⟨by rw [m.next], by rw [next'], ?_⟩
  exact {
    next := by
      change min (h.bus.next + 1) _ = s.next + 1
      rw [m.next]
      exact Nat.min_eq_left more.le
    next' := by
      change (⟨min (h'.bus.next + 1) Bus.lastNumber⟩ : ListenerId) = s.moved ⟨s.next + 1⟩
      rw [Nat.min_eq_left (Nat.succ_le_of_lt (m.next_lt.trans_lt more)), s.moved_next, ← m.next']
    few := more
    unlimited := m.unlimited
    unlimited' := m.unlimited'
    tables := by
      refine (m.tables.later b later).append
        (.both ⟨?_, ?_, rfl, neverCounts, k', rfl, fun e => (same e).later later⟩ .nil)
      · rw [m.next]
        exact Nat.lt_succ_self _
      · rw [m.next]
        exact next'
    session := m.session
    memory := m.memory.later later
    waits := m.waits }

theorem unsubscribe (m : Mirrors b s h h') (i : ListenerId) :
    let gone := h.bus.unsubscribe i
    let gone' := h'.bus.unsubscribe (s.moved i)
    gone'.1 = gone.1 ∧ Mirrors b s { h with bus := gone.2 } { h' with bus := gone'.2 } := by
  have same (l : Listener σ) (l' : Listener (Company σ π)) (pair : s.Pairs b l l') :
      (l'.id == s.moved i) = (l.id == i) := by
    rw [pair.id, Bool.eq_iff_iff, beq_iff_eq, beq_iff_eq]
    exact ⟨Stage.moved_injective, congrArg s.moved⟩
  have other (l' : Listener (Company σ π)) (guest : s.IsGuest b l') : (l'.id == s.moved i) = false :=
    beq_eq_false_iff_ne.mpr (Stage.moved_ne guest.id).symm
  refine ⟨m.tables.any same other, { m with tables := ?_ }⟩
  exact m.tables.filter fun l l' pair => congrArg not (same l l' pair)

/-- A step is counted before both runs go on, and the bystander may come with it. -/
theorem ticked (m : Mirrors b s h h') : ∃ t, s.Leads t ∧ Mirrors b t h (b.ticked h') := by
  obtain ⟨bus, session, shared, own, wait⟩ := h'
  rcases wait with _ | _ | n
  · exact ⟨s, .refl s, m⟩
  · -- The bystander comes.
    have alone : s.guest = none := by
      by_contra there
      cases m.waits.mpr there
    have later := Stage.Leads.joined alone
    have room : bus.isFull = false := Bus.not_isFull_of_unlimited m.unlimited'
    have next' : bus.next = s.next := by
      have eq := m.next'
      rw [Stage.moved, alone] at eq
      exact congrArg ListenerId.number eq
    have given : b.ticked ⟨bus, session, shared, own, some 0⟩ =
        ⟨(bus.subscribe b.filter b.listen).2, session, shared, own, none⟩ := rfl
    rw [given, Bus.subscribe_of_room room]
    refine ⟨s.joined, later, ?_⟩
    exact {
      next := m.next
      next' := by
        change (⟨min (bus.next + 1) Bus.lastNumber⟩ : ListenerId) = s.joined.moved ⟨s.next⟩
        rw [next', Nat.min_eq_left (Nat.succ_le_of_lt m.few)]
        exact (if_neg (Nat.lt_irrefl s.next)).symm
      few := m.few
      unlimited := m.unlimited
      unlimited' := m.unlimited'
      tables := by
        rw [← List.append_nil h.bus.listeners]
        exact (m.tables.later b later).append (.more ⟨congrArg some next'.symm, rfl, rfl⟩ .nil)
      session := m.session
      memory := m.memory.later later
      waits := iff_of_true rfl (Option.some_ne_none _) }
  · have waiting : some n ≠ none := Option.some_ne_none n
    exact ⟨s, .refl s, { m with waits := iff_of_false waiting fun there => Option.some_ne_none _ (m.waits.mpr there) }⟩

/-- Both runs look for the listeners that hear an event, and note how many they are. -/
theorem begun (m : Mirrors b s h h') (e : Event) :
    s.Tables b (h.bus.hearers e) (h'.bus.hearers e) ∧ Mirrors b s (h.begun e) (h'.begun e) := by
  refine ⟨m.tables.filter fun l l' pair => by rw [pair.filter], { m with session := ?_ }⟩
  exact m.session.note _ _

theorem within {next next' : Session} (m : Mirrors b s h h') (session : next.SameButLog next') :
    Mirrors b s { h with session := next } { h' with session := next' } := { m with session }

theorem remembering {x x' : σ} (m : Mirrors b s h h') (memory : s.Recalls x x') :
    Mirrors b s { h with memory := x } { h' with memory := { h'.memory with shared := x' } } :=
  { m with memory, waits := m.waits }

/-- The bystander is called and looks on. -/
theorem listened (m : Mirrors b s h h') {r : Routine π} (passive : r.IsPassive) (d : Delivery (Company σ π)) :
    let own : Routine (Company σ π) := r.carried (·.own) (fun x m => { m with own := x }) id
    own.utterances d h' = [] ∧ ∃ h'', own.run d h' = some (.ok (), h'') ∧ Mirrors b s h h'' := by
  induction passive generalizing h' with
  | ok => exact ⟨rfl, h', rfl, m⟩
  | note rs rest ih => exact ih (m.within (m.session.trans (Session.sameButLog_noteAll h'.session rs)))
  | read rest ih => exact ih h'.memory.own m
  | write x rest ih =>
    have m : Mirrors b s h { h' with memory := { h'.memory with own := x } } :=
      { m with memory := m.memory, waits := m.waits }
    exact ih m

end Mirrors

/-! ### What follows -/

/-- What comes in both runs of a routine or a delivery that begins at a stage: answers and turns. -/
inductive Follows (s : Stage) : Option (Outcome × Hub σ) → List (Hub.Turn σ) →
    Option (Outcome × Hub (Company σ π)) → List (Hub.Turn (Company σ π)) → Prop
  | ended {t : Stage} {o : Outcome} {h : Hub σ} {h' : Hub (Company σ π)} {ts : List (Hub.Turn σ)}
    {ts' : List (Hub.Turn (Company σ π))} (later : s.Leads t) (turns : t.Retold b ts ts') (mirrors : Mirrors b t h h') :
    Follows s (some (o, h)) ts (some (o, h')) ts'
  | broken {t : Stage} {ts : List (Hub.Turn σ)} {ts' : List (Hub.Turn (Company σ π))} (later : s.Leads t)
    (turns : t.Retold b ts ts') : Follows s none ts none ts'

namespace Follows
variable {b} {answer : Option (Outcome × Hub σ)} {answer' : Option (Outcome × Hub (Company σ π))}
  {ts us : List (Hub.Turn σ)} {ts' us' : List (Hub.Turn (Company σ π))}

theorem earlier (later : s.Leads t) (h : Follows b t answer ts answer' ts') : Follows b s answer ts answer' ts' := by
  cases h with
  | ended later' turns mirrors => exact .ended (later.trans later') turns mirrors
  | broken later' turns => exact .broken (later.trans later') turns

theorem after (first : s.Retold b us us') (h : Follows b s answer ts answer' ts') :
    Follows b s answer (us ++ ts) answer' (us' ++ ts') := by
  cases h with
  | ended later turns mirrors => exact .ended later ((first.later b later).append turns) mirrors
  | broken later turns => exact .broken later ((first.later b later).append turns)

end Follows

/-! ### Steps in both runs -/

section Runs
variable {b} {d : Delivery σ} {within : Event → Hub σ → List (Hub.Turn σ)}
  {steps : Event → Hub σ → List (Hub.Step σ)} {d' : Delivery (Company σ π)}
  {within' : Event → Hub (Company σ π) → List (Hub.Turn (Company σ π))}

variable (b d within d' within') in
/-- Two routines emit the same with the same answers, and the same comes of them. -/
structure Parallels (s : Stage) (r : Routine σ) (h : Hub σ) (r' : Routine (Company σ π)) (h' : Hub (Company σ π)) :
    Prop where
  emissions : r'.emissions d' h' = r.emissions d h
  follows : Follows b s (r.run d h) (Hub.ledTo within (r.utterances d h)) (r'.run d' h')
    (Hub.ledTo within' (r'.utterances d' h'))

theorem Parallels.arrive {r : Routine σ} {h : Hub σ} {rest : Routine (Company σ π)} {h' : Hub (Company σ π)}
    (later : s.Leads t) (p : Parallels b d within d' within' t r h rest (b.ticked h')) :
    Parallels b d within d' within' s r h (b.arrive rest) h' := by
  refine ⟨?_, ?_⟩
  · rw [Routine.emissions_eq, Bystander.utterances_arrive, ← Routine.emissions_eq]
    exact p.emissions
  · rw [Bystander.run_arrive, Bystander.utterances_arrive]
    exact p.follows.earlier later

/-- Where a delivery follows the other, so does what is done with its answer. -/
theorem Parallels.emit {e : Event} {h : Hub σ} {h' : Hub (Company σ π)} {next : Outcome → Routine σ}
    {next' : Outcome → Routine (Company σ π)} (delivery : Follows b t (d e h) (within e h) (d' e h') (within' e h'))
    (rest : ∀ {o h₁}, d e h = some (o, h₁) → ∀ u h₁', t.Leads u → Mirrors b u h₁ h₁' →
      Parallels b d within d' within' u (next o) h₁ (next' o) h₁') :
    Parallels b d within d' within' t (.emit e next) h (.emit e next') h' := by
  generalize hd : d e h = answer, hd' : d' e h' = answer' at delivery
  cases delivery with
  | broken there turns =>
    refine ⟨?_, ?_⟩
    · rw [Routine.emissions_emit_none hd, Routine.emissions_emit_none hd']
    · rw [Routine.run, Routine.run, Routine.utterances_emit_none hd, Routine.utterances_emit_none hd', hd, hd']
      exact .broken there (turns.append .nil)
  | @ended u o h₁ h₁' _ _ there turns m =>
    have p := rest hd u h₁' there m
    refine ⟨?_, ?_⟩
    · rw [Routine.emissions_emit_some hd, Routine.emissions_emit_some hd']
      exact congrArg (_ :: ·) p.emissions
    · rw [Routine.run, Routine.run, Routine.utterances_emit_some hd, Routine.utterances_emit_some hd', hd, hd']
      exact (p.follows.after turns).earlier there

variable (follow : ∀ (s : Stage) (e : Event) (h : Hub σ) (h' : Hub (Company σ π)), Mirrors b s h h' →
  (∀ x ∈ steps e h, x.IsEarly) → Follows b s (d e h) (within e h) (d' e h') (within' e h'))
include follow

/-- Where deliveries follow each other, routines do that are the same up to the numbers of the listeners. -/
theorem Routine.parallels {r : Routine σ} {h : Hub σ} {r' : Routine σ} {h' : Hub (Company σ π)} (same : s.Same r r')
    (counts : r.NeverCounts) (m : Mirrors b s h h')
    (early : ∀ x ∈ (r.steps d h).flatMap (Hub.Step.opened steps), x.IsEarly) :
    Parallels b d within d' within' s r h (b.joining r') h' := by
  -- Before each step the bystander may come, so each case goes on at a later stage.
  induction r generalizing s r' h h' with
  | done o =>
    obtain ⟨t, later, m⟩ := m.ticked
    obtain rfl := same.done
    exact .arrive later ⟨rfl, .ended (.refl t) .nil m⟩
  | emit e next ih =>
    obtain ⟨t, later, m⟩ := m.ticked
    obtain ⟨next', rfl, rest⟩ := (same.later later).emit
    rw [Routine.steps, List.flatMap_cons] at early
    obtain ⟨first, earlyRest⟩ := List.forall_mem_append.mp early
    have delivery := follow _ _ _ _ m (List.forall_mem_cons.mp first).2
    refine .arrive later (.emit delivery fun {o h₁} answer u h₁' there m => ?_)
    rw [answer] at earlyRest
    exact ih o ((rest o).later there) (counts o) m earlyRest
  | subscribe f k next _ ih =>
    obtain ⟨t, later, m⟩ := m.ticked
    obtain ⟨k', next', rfl, heard, rest⟩ := (same.later later).subscribe
    refine .arrive later ?_
    obtain ⟨first, earlyRest⟩ := List.forall_mem_cons.mp early
    have more : t.next + 1 < Bus.lastNumber := m.next ▸ first
    obtain ⟨given, given', m⟩ := m.subscribe (f := f) more counts.1 heard
    have grown := Stage.Leads.grown t
    have p := ih _ (rest _ grown ⟨t.next⟩ (Nat.lt_succ_self _)) (counts.2 _) m (by rw [← given]; exact earlyRest)
    rw [← given, ← given'] at p
    exact ⟨p.emissions, p.follows.earlier grown⟩
  | unsubscribe i next ih =>
    obtain ⟨t, later, m⟩ := m.ticked
    obtain ⟨next', rfl, rest⟩ := (same.later later).unsubscribe
    obtain ⟨answer, m⟩ := m.unsubscribe i
    have same : t.Same (next (h.bus.unsubscribe i).1) (next' ((b.ticked h').bus.unsubscribe (t.moved i)).1) := by
      rw [answer]
      exact rest _
    have p := ih _ same (counts _) m (List.forall_mem_cons.mp early).2
    exact .arrive later ⟨p.emissions, p.follows⟩
  | count next ih => exact counts.elim
  | note rs next ih =>
    obtain ⟨t, later, m⟩ := m.ticked
    obtain ⟨next', rfl, rest⟩ := (same.later later).note
    have p := ih () rest counts (m.within (m.session.noteAll rs)) early
    exact .arrive later ⟨p.emissions, p.follows⟩
  | openWindow document url config next ih =>
    obtain ⟨t, later, m⟩ := m.ticked
    obtain ⟨next', rfl, rest⟩ := (same.later later).openWindow
    obtain ⟨answer, session⟩ := m.session.openWindow document url config
    have same : t.Same (next ⟨(h.session.openWindow document url config).1, document, url⟩)
        (next' ⟨((b.ticked h').session.openWindow document url config).1, document, url⟩) := by
      rw [answer]
      exact rest _
    have p := ih _ same (counts _) (m.within session) early
    exact .arrive later ⟨p.emissions, p.follows⟩
  | evaluate page source next ih =>
    obtain ⟨t, later, m⟩ := m.ticked
    obtain ⟨next', rfl, rest⟩ := (same.later later).evaluate
    obtain ⟨answer, session⟩ := m.session.evaluate page.window source
    have same : t.Same (next (h.session.evaluate .quiet page.window source).1)
        (next' ((b.ticked h').session.evaluate .quiet page.window source).1) := by
      rw [answer]
      exact rest _
    have p := ih _ same (counts _) (m.within session) early
    exact .arrive later ⟨p.emissions, p.follows⟩
  | read next ih =>
    obtain ⟨t, later, m⟩ := m.ticked
    obtain ⟨next', rfl, rest⟩ := (same.later later).read
    have p := ih h.memory (rest _ _ m.memory) (counts _) m early
    exact .arrive later ⟨p.emissions, p.follows⟩
  | write x next ih =>
    obtain ⟨t, later, m⟩ := m.ticked
    obtain ⟨x', next', rfl, recalls, rest⟩ := (same.later later).write
    have p := ih () rest counts (m.remembering recalls) early
    exact .arrive later ⟨p.emissions, p.follows⟩

/-- Listeners that are called one after another do the same in both runs. -/
theorem Hub.callAll_follows (e : Event) {ls : List (Listener σ)} {ls' : List (Listener (Company σ π))} {h : Hub σ}
    {h' : Hub (Company σ π)} (tables : s.Tables b ls ls') (later : s.Leads t) (m : Mirrors b t h h')
    (early : ∀ x ∈ (stepsOf d e ls h).flatMap (Step.opened steps), x.IsEarly) :
    Follows b t (callAll d e ls h) (turnsOf d within e ls h) (callAll d' e ls' h') (turnsOf d' within' e ls' h') := by
  -- The tables are those of the stage at which the event was emitted; the hubs go on with each listener.
  induction tables generalizing t h h' with
  | nil => exact .ended (.refl t) .nil m
  | @more l' ls ls' guest rest ih =>
    -- The bystander leaves all as it was, beside its own memory and the log.
    obtain ⟨silent, h'', run, m⟩ := m.listened (b.passive e) d'
    have silent : (l'.handler e).utterances d' h' = [] := guest.handler ▸ silent
    have run : (l'.handler e).run d' h' = some (.ok (), h'') := guest.handler ▸ run
    rw [callAll, turnsOf, run, silent]
    have turn : t.Retold b [] [⟨l', e, []⟩] := .more (guest.later b later) .nil
    exact (ih later m early).after turn
  | @both l l' ls ls' pair rest ih =>
    obtain ⟨k, handler, same⟩ := pair.handler
    rw [stepsOf, List.flatMap_append] at early
    obtain ⟨first, earlyRest⟩ := List.forall_mem_append.mp early
    have p := Routine.parallels follow ((same e).later later) (pair.neverCounts e) m first
    rw [show b.joining (k e) = l'.handler e by rw [handler]] at p
    have turn : t.Retold b [⟨l, e, (l.handler e).utterances d h⟩] [⟨l', e, (l'.handler e).utterances d' h'⟩] := by
      refine .both ⟨pair.given.trans_le later.next, pair.id.trans (later.moved_eq pair.given).symm, rfl, ?_⟩ .nil
      rw [Turn.emissions, Turn.emissions, ← Routine.emissions_eq, ← Routine.emissions_eq]
      exact p.emissions
    have follows := p.follows
    rw [callAll, callAll, turnsOf, turnsOf]
    generalize hr : (l.handler e).run d h = answer, hr' : (l'.handler e).run d' h' = answer' at follows
    cases follows with
    | broken there turns =>
      have led := (turn.later b there).append turns
      exact .broken there (led.append .nil)
    | @ended u o h₁ h₁' _ _ there turns m =>
      have led := (turn.later b there).append turns
      rw [hr] at earlyRest
      cases o with
      | error x => exact .ended there (led.append .nil) m
      | ok => exact ((ih (later.trans there) m earlyRest).after led).earlier there

end Runs

theorem Hub.deliver_follows (depth : Nat) (s : Stage) (e : Event) (h : Hub σ) (h' : Hub (Company σ π))
    (m : Mirrors b s h h') (early : ∀ x ∈ allSteps depth e h, x.IsEarly) :
    Follows b s (deliver depth e h) (turns depth e h) (deliver depth e h') (turns depth e h') := by
  induction depth generalizing s e h h' with
  | zero => exact .broken (.refl s) .nil
  | succ depth ih =>
    obtain ⟨tables, m⟩ := m.begun e
    exact callAll_follows ih e tables (.refl s) m early

end Mirrored

/-! ### A run and the same run with a bystander -/

/-- While few listeners are added, none gets a number near the last one. -/
theorem Routine.steps_early (session : Session) (memory : σ) (depth : Nat) (r : Routine σ)
    (few : (Hub.given (r.allSteps depth ⟨{}, session, memory⟩)).length < Bus.lastNumber - 1) :
    ∀ x ∈ r.allSteps depth ⟨{}, session, memory⟩, x.IsEarly := by
  have fewer := few.trans_le (Nat.sub_le ..)
  obtain ⟨-, lawful, -, -, dense⟩ := r.allSteps_keep_register {} session memory depth fewer
  intro x hx
  obtain ⟨h, request⟩ := x
  cases request with
  | emit e => trivial
  | unsubscribe i => trivial
  | subscribe f k =>
    have unlimited : h.bus.config.maxListeners = 0 := congrArg BusConfig.maxListeners (lawful _ hx).1.config_eq
    have given : (⟨h, .subscribe f k⟩ : Hub.Step σ).given? = some ⟨h.bus.next⟩ := by
      change (h.bus.subscribe f k).1.toOption = _
      rw [Bus.subscribe_of_room (Bus.not_isFull_of_unlimited unlimited)]
      rfl
    have member : (⟨h.bus.next⟩ : ListenerId) ∈ Hub.given (r.allSteps depth ⟨{}, session, memory⟩) :=
      List.mem_filterMap.mpr ⟨_, hx, given⟩
    rw [dense] at member
    obtain ⟨n, hn, eq⟩ := List.mem_map.mp member
    have eq : n = h.bus.next := congrArg ListenerId.number eq
    have below := (List.mem_range'_1.mp hn).2
    change h.bus.next + 1 < Bus.lastNumber
    omega

/-- A bystander is not noticed. Take a run on a bus without a limit that gives few numbers, of a routine that neither
reads the number of listeners nor does anything with their numbers but ask for them, and let a bystander come at any
step of it, whatever the bystander hears and remembers. The routine ends as it did and its emissions are answered as
they were. Up to a renaming of the listeners the calls of all others are what they were, in the same order and with
the same events, and every emission within them is answered as it was. -/
theorem Routine.bystander_unnoticed [MulAction (Perm ListenerId) σ] {r : Routine σ} (isOpaque : r.IsOpaque)
    (neverCounts : r.NeverCounts) (session : Session) {memory : σ} (nameless : ∀ ρ : Perm ListenerId, ρ • memory = memory)
    (depth : Nat) (few : (Hub.given (r.allSteps depth ⟨{ config := ⟨0⟩ }, session, memory⟩)).length < Bus.lastNumber - 1)
    (b : Bystander π) (own : π) (wait : Nat) :
    let start : Hub σ := ⟨{ config := ⟨0⟩ }, session, memory⟩
    let start' : Hub (Company σ π) := ⟨{ config := ⟨0⟩ }, session, ⟨memory, own, some wait⟩⟩
    let turns' := (b.joining r).turns depth start'
    (b.joining r).result (Hub.deliver depth) start' = r.result (Hub.deliver depth) start ∧
      (b.joining r).emissions (Hub.deliver depth) start' = r.emissions (Hub.deliver depth) start ∧
      ∃ (guest : ListenerId) (ρ : Perm ListenerId),
        ((turns'.filter fun t => t.listener.id != guest).map fun t => (t.listener.id, t.event, t.emissions)) =
          (r.turns depth start).map (fun t => (ρ t.listener.id, t.event, t.emissions)) ∧
        ∀ t ∈ turns', t.listener.id = guest → t.listener.filter = b.filter ∧ t.listener.handler = b.listen := by
  intro start start' turns'
  let s : Stage := ⟨none, 1, nofun⟩
  have m : Mirrors b s start start' := {
    next := rfl
    next' := rfl
    few := by decide
    unlimited := rfl
    unlimited' := rfl
    tables := .nil
    session := .refl session
    memory := fun ρ _ => (nameless ρ).symm
    waits := iff_of_false nofun fun no => no rfl }
  have early := r.steps_early session memory depth few
  obtain ⟨emissions, follows⟩ := parallels (Hub.deliver_follows b depth) (.of_isOpaque isOpaque) neverCounts m early
  have comes : (b.joining r).result (Hub.deliver depth) start' = r.result (Hub.deliver depth) start ∧
      ∃ t : Stage, t.Retold b (r.turns depth start) turns' := by
    rw [result, result]
    generalize r.run (Hub.deliver depth) start = answer at follows ⊢
    generalize (b.joining r).run (Hub.deliver depth) start' = answer' at follows ⊢
    cases follows with
    | broken _ retold => exact ⟨rfl, _, retold⟩
    | ended _ retold _ => exact ⟨rfl, _, retold⟩
  obtain ⟨result, t, retold⟩ := comes
  exact ⟨result, emissions, retold.others⟩

/-- Takes itself away when it is called, and says so. -/
def Hub.leaver : Handler (Option ListenerId) := fun _ => .read fun
  | none => .ok
  | some i => .unsubscribe i fun _ => .announce (.traverseEnd "r") fun _ => .ok

/-- Adds a listener that remembers its number, and calls it twice. -/
def Hub.parting : Routine (Option ListenerId) := .subscribe .all leaver fun
  | .error e => .fail e
  | .ok i => .write (some i) fun _ =>
    .announce (.traverseStart "r") fun _ => .announce (.traverseStart "r") fun _ => .ok

theorem Hub.leaver_renamed (ρ : Perm ListenerId) (e : Event) : (leaver e).renamed ρ = leaver e := by
  refine congrArg Routine.read (funext fun m => ?_)
  cases m with
  | none => rfl
  | some i =>
    refine congrArg₂ Routine.unsubscribe (ρ.apply_symm_apply i) (funext fun _ => ?_)
    exact Routine.renamed_announce ρ _ _

theorem Hub.parting_isOpaque : parting.IsOpaque := by
  intro ρ
  refine congrArg₂ (Routine.subscribe .all) (funext (leaver_renamed ρ)) (funext fun a => ?_)
  cases a with
  | error x => rfl
  | ok i =>
    refine congrArg₂ Routine.write (congrArg some (ρ.apply_symm_apply i)) (funext fun _ => ?_)
    rw [Routine.renamed_announce]
    exact congrArg (Routine.announce _) (funext fun _ => Routine.renamed_announce ρ _ _)

/-- Remembers how many events it heard. -/
def Bystander.counting : Bystander Nat where
  filter := .all
  handler := fun _ => .change (· + 1) fun _ => .ok
  passive := fun _ => .read fun _ => .write _ .ok

/-- The bystander comes before the first emission and is called three times; the other listener is called once. -/
theorem Routine.bystander_unnoticed_parting :
    let start : Hub (Option ListenerId) := ⟨{ config := ⟨0⟩ }, {}, none⟩
    let start' : Hub (Company (Option ListenerId) Nat) := ⟨{ config := ⟨0⟩ }, {}, ⟨none, 0, some 0⟩⟩
    let joining := Bystander.counting.joining Hub.parting
    (joining.run (Hub.deliver 3) start').map (fun answer => (answer.1.toBool, answer.2.memory.own)) = some (true, 3) ∧
      joining.result (Hub.deliver 3) start' = Hub.parting.result (Hub.deliver 3) start ∧
      joining.emissions (Hub.deliver 3) start' = Hub.parting.emissions (Hub.deliver 3) start := by
  intro start start' joining
  have neverCounts : Hub.parting.NeverCounts := by
    refine ⟨fun _ m => ?_, fun a => ?_⟩
    · cases m with
      | none => trivial
      | some i => exact fun _ => .announce _ trivial
    · cases a with
      | error x => trivial
      | ok i => exact .announce (.traverseStart "r") (.announce (.traverseStart "r") trivial)
  have few : (Hub.given (Hub.parting.allSteps 3 start)).length < Bus.lastNumber - 1 := by
    have one : (Hub.given (Hub.parting.allSteps 3 start)).length = 1 := by decide
    rw [one]
    decide
  obtain ⟨result, emissions, -⟩ :=
    bystander_unnoticed Hub.parting_isOpaque neverCounts {} (fun _ => rfl) 3 few Bystander.counting 0 0
  exact ⟨by decide, result, emissions⟩

end Pagewalk
