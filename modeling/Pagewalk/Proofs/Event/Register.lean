import Pagewalk.Proofs.Event.Dispatch

/-!
# The register of listeners

What a routine asks of a bus and what the listeners ask that its emissions call comes to one sequence of steps, each
of which finds the table as the one before left it. Along such a sequence the table stays in order: the numbers in it
increase and lie below the next one, and the limit is kept. The numbers that are given follow one another, whoever
was taken away meanwhile; only when the last number there is was reached would one be given again.
-/

namespace Pagewalk

variable {σ : Type}

/-! ### A bus -/

namespace Bus
variable {b : Bus σ} {f : EventFilter} {k : Handler σ} {id : ListenerId}

theorem subscribe_of_isFull (full : b.isFull = true) :
    b.subscribe f k = (.error (.tooManyListeners b.config.maxListeners), b) := if_pos full

theorem subscribe_of_room (room : b.isFull = false) : b.subscribe f k =
    (.ok ⟨b.next⟩, { b with next := min (b.next + 1) lastNumber, listeners := b.listeners ++ [⟨⟨b.next⟩, f, k⟩] }) :=
  if_neg (Bool.eq_false_iff.mp room)

theorem has_iff : b.has id = true ↔ ∃ l ∈ b.listeners, l.id = id := by
  simp only [has, List.any_eq_true, beq_iff_eq]

/-- Taking away a listener that is not there changes nothing. -/
theorem unsubscribe_of_not_has (no : b.has id = false) : (b.unsubscribe id).2 = b := by
  have all : b.listeners.filter (fun l => l.id != id) = b.listeners := List.filter_eq_self.mpr fun l hl =>
    bne_iff_ne.mpr fun same => Bool.eq_false_iff.mp no (has_iff.mpr ⟨l, hl, same⟩)
  simp only [unsubscribe, all]

/-- The table of a bus is in order. -/
structure InOrder (config : BusConfig) (b : Bus σ) : Prop where
  config_eq : b.config = config
  increasing : b.listeners.Pairwise fun l l' => l.id.number < l'.id.number
  below : ∀ l ∈ b.listeners, l.id.number < b.next
  room : 0 < config.maxListeners → b.count ≤ config.maxListeners

theorem inOrder_empty (config : BusConfig) : InOrder config ({ config } : Bus σ) :=
  ⟨rfl, .nil, List.forall_mem_nil _, fun _ => Nat.zero_le _⟩

namespace InOrder
variable {config : BusConfig}

theorem subscribe (hb : b.InOrder config) (more : b.isFull = false → b.next < lastNumber) :
    (b.subscribe f k).2.InOrder config := by
  cases full : b.isFull with
  | true => rwa [subscribe_of_isFull full]
  | false =>
    have next : min (b.next + 1) lastNumber = b.next + 1 := Nat.min_eq_left (more full)
    rw [subscribe_of_room full, next]
    refine ⟨hb.config_eq, ?_, fun l hl => ?_, fun limited => ?_⟩
    · refine List.pairwise_append.mpr ⟨hb.increasing, List.pairwise_singleton .., fun l hl l' hl' => ?_⟩
      rw [List.mem_singleton.mp hl']
      exact hb.below l hl
    · rcases List.mem_append.mp hl with old | new
      · exact Nat.lt_succ_of_lt (hb.below l old)
      · rw [List.mem_singleton.mp new]
        exact Nat.lt_succ_self _
    · have free : b.count < config.maxListeners := by
        simpa [isFull, hb.config_eq, limited] using full
      rw [count, List.length_append]
      exact free

theorem unsubscribe (hb : b.InOrder config) : (b.unsubscribe id).2.InOrder config where
  config_eq := hb.config_eq
  increasing := hb.increasing.filter _
  below l hl := hb.below l (List.mem_filter.mp hl).1
  room limited := Nat.le_trans (List.length_filter_le ..) (hb.room limited)

/-- In a table in order no other listener has the number of the one that is taken away. -/
theorem unsubscribe_split (hb : b.InOrder config) {front back : List (Listener σ)} {l : Listener σ}
    (split : b.listeners = front ++ l :: back) : (b.unsubscribe l.id).2 = { b with listeners := front ++ back } := by
  have increasing := hb.increasing
  rw [split] at increasing
  obtain ⟨-, increasing, earlier⟩ := List.pairwise_append.mp increasing
  obtain ⟨later, -⟩ := List.pairwise_cons.mp increasing
  have other {l' : Listener σ} (ne : l'.id.number ≠ l.id.number) : (l'.id != l.id) = true :=
    bne_iff_ne.mpr fun same => ne (congrArg ListenerId.number same)
  have hfront : front.filter (fun l' => l'.id != l.id) = front := List.filter_eq_self.mpr fun l' hl' =>
    other (Nat.ne_of_lt (earlier l' hl' l List.mem_cons_self))
  have hback : back.filter (fun l' => l'.id != l.id) = back := List.filter_eq_self.mpr fun l' hl' =>
    other (Nat.ne_of_gt (later l' hl'))
  simp only [Bus.unsubscribe, split, List.filter_append, List.filter_cons, bne_self_eq_false, Bool.false_eq_true,
    if_false, hfront, hback]

end InOrder

end Bus

namespace Hub

/-! ### A step -/

namespace Step

/-- The bus that a step leaves. An emission itself leaves it as it is. -/
def after (s : Step σ) : Bus σ :=
  match s.request with
  | .emit _ => s.hub.bus
  | .subscribe f k => (s.hub.bus.subscribe f k).2
  | .unsubscribe id => (s.hub.bus.unsubscribe id).2

/-- The number that a step gives to a listener. -/
def given? (s : Step σ) : Option ListenerId :=
  match s.request with
  | .subscribe f k => (s.hub.bus.subscribe f k).1.toOption
  | _ => none

variable {config : BusConfig} {s : Step σ}

/-- A step gives the next number or none. -/
theorem given?_cases (s : Step σ) : (s.given? = none ∧ s.after.next = s.hub.bus.next) ∨
    (s.given? = some ⟨s.hub.bus.next⟩ ∧ s.after.next = min (s.hub.bus.next + 1) Bus.lastNumber) := by
  obtain ⟨h, request⟩ := s
  cases request with
  | emit e => exact .inl ⟨rfl, rfl⟩
  | subscribe f k =>
    cases full : h.bus.isFull with
    | true => exact .inl (by simp only [given?, after, Bus.subscribe_of_isFull full, Except.toOption, and_self])
    | false => exact .inr (by simp only [given?, after, Bus.subscribe_of_room full, Except.toOption, and_self])
  | unsubscribe id => exact .inl ⟨rfl, rfl⟩

theorem inOrder_after (hb : s.hub.bus.InOrder config) (more : s.given? ≠ none → s.hub.bus.next < Bus.lastNumber) :
    s.after.InOrder config := by
  obtain ⟨h, request⟩ := s
  cases request with
  | emit e => exact hb
  | subscribe f k =>
    refine hb.subscribe fun room => more ?_
    simp only [given?, Bus.subscribe_of_room room, Except.toOption, ne_eq, reduceCtorEq, not_false_eq_true]
  | unsubscribe id => exact hb.unsubscribe

/-- A step does to the table what it answers to have done, and nothing else. -/
def Lawful (s : Step σ) : Prop :=
  match s.request with
  | .emit _ => s.after = s.hub.bus
  | .subscribe f k =>
    match (s.hub.bus.subscribe f k).1 with
    | .error _ => s.after = s.hub.bus
    | .ok id => s.after.listeners = s.hub.bus.listeners ++ [⟨id, f, k⟩]
  | .unsubscribe id =>
    ((s.hub.bus.unsubscribe id).1 = true ↔ ∃ l ∈ s.hub.bus.listeners, l.id = id) ∧
    match (s.hub.bus.unsubscribe id).1 with
    | true => ∃ front l back, s.hub.bus.listeners = front ++ l :: back ∧ l.id = id ∧
        s.after = { s.hub.bus with listeners := front ++ back }
    | false => s.after = s.hub.bus

theorem lawful (hb : s.hub.bus.InOrder config) : s.Lawful := by
  obtain ⟨h, request⟩ := s
  cases request with
  | emit e => rfl
  | subscribe f k =>
    cases full : h.bus.isFull with
    | true => simp only [Lawful, after, Bus.subscribe_of_isFull full]
    | false => simp only [Lawful, after, Bus.subscribe_of_room full]
  | unsubscribe id =>
    refine ⟨Bus.has_iff, ?_⟩
    change match h.bus.has id with | true => _ | false => _
    cases there : h.bus.has id with
    | true =>
      obtain ⟨l, hl, rfl⟩ := Bus.has_iff.mp there
      obtain ⟨front, back, split⟩ := List.append_of_mem hl
      exact ⟨front, l, back, split, rfl, hb.unsubscribe_split split⟩
    | false => exact Bus.unsubscribe_of_not_has there

end Step

/-! ### Many steps -/

/-- Each step finds the bus as the one before it left it. -/
def Joined : Bus σ → List (Step σ) → Bus σ → Prop
  | b, [], b' => b' = b
  | b, s :: ss, b' => s.hub.bus = b ∧ Joined s.after ss b'

/-- The numbers that steps give, in their order. -/
def given (ss : List (Step σ)) : List ListenerId := ss.filterMap Step.given?

namespace Joined
variable {config : BusConfig} {b b₁ b' : Bus σ} {ss ts : List (Step σ)}

theorem append (first : Joined b ss b₁) (second : Joined b₁ ts b') : Joined b (ss ++ ts) b' := by
  induction ss generalizing b with
  | nil =>
    cases first
    exact second
  | cons s ss ih => exact ⟨first.1, ih first.2⟩

/-- Steps give consecutive numbers and keep the table in order, as long as the last number is not reached. -/
theorem keeps (hj : Joined b ss b') (hb : b.InOrder config) (few : b.next + (given ss).length ≤ Bus.lastNumber) :
    given ss = (List.range' b.next (given ss).length).map .mk ∧ b'.InOrder config ∧
      ∀ s ∈ ss, s.hub.bus.InOrder config ∧ s.after.InOrder config := by
  induction ss generalizing b with
  | nil =>
    cases hj
    exact ⟨rfl, hb, List.forall_mem_nil _⟩
  | cons s ss ih =>
    obtain ⟨rfl, hj⟩ := hj
    rcases s.given?_cases with ⟨hgiven, hnext⟩ | ⟨hgiven, hnext⟩
    · -- No number is given and the next one stays, so the rest stands where the whole stood.
      have same : given (s :: ss) = given ss := List.filterMap_cons_none hgiven
      rw [same] at few ⊢
      have after := s.inOrder_after hb fun some => absurd hgiven some
      obtain ⟨dense, last, all⟩ := ih hj after (hnext ▸ few)
      exact ⟨hnext ▸ dense, last, List.forall_mem_cons.mpr ⟨⟨hb, after⟩, all⟩⟩
    · -- The next number is given. It is not the last one there is, so the one after it is one greater.
      have one : given (s :: ss) = ⟨s.hub.bus.next⟩ :: given ss := List.filterMap_cons_some hgiven
      rw [one, List.length_cons] at few
      have more : s.hub.bus.next < Bus.lastNumber := by omega
      have hnext : s.after.next = s.hub.bus.next + 1 := hnext.trans (Nat.min_eq_left more)
      have after := s.inOrder_after hb fun _ => more
      obtain ⟨dense, last, all⟩ := ih hj after (by omega)
      rw [hnext] at dense
      refine ⟨?_, last, List.forall_mem_cons.mpr ⟨⟨hb, after⟩, all⟩⟩
      rw [one, List.length_cons, List.range'_succ, List.map_cons, ← dense]

end Joined

/-- The steps account for an answer: they are joined, and they lead to the bus that the answer leaves. -/
def Accounts (b : Bus σ) (ss : List (Step σ)) (answer : Option (Outcome × Hub σ)) : Prop :=
  ∃ b', Joined b ss b' ∧ ∀ o h, answer = some (o, h) → h.bus = b'

namespace Accounts
variable {b : Bus σ} {s : Step σ} {ss ts : List (Step σ)} {answer : Option (Outcome × Hub σ)}

theorem nil (o : Outcome) (h : Hub σ) : Accounts h.bus [] (some (o, h)) := by
  refine ⟨h.bus, rfl, ?_⟩
  rintro _ _ ⟨⟩
  rfl

theorem cons (rest : Accounts s.after ss answer) : Accounts s.hub.bus (s :: ss) answer := by
  obtain ⟨b', joined, last⟩ := rest
  exact ⟨b', ⟨rfl, joined⟩, last⟩

theorem append {o : Outcome} {h : Hub σ} (first : Accounts b ss (some (o, h))) (second : Accounts h.bus ts answer) :
    Accounts b (ss ++ ts) answer := by
  obtain ⟨b₁, joined, hb⟩ := first
  obtain rfl := hb o h rfl
  obtain ⟨b', joined', last⟩ := second
  exact ⟨b', joined.append joined', last⟩

end Accounts

/-- A step, and after an emission the steps to which it leads. -/
def Step.opened (within : Event → Hub σ → List (Step σ)) (s : Step σ) : List (Step σ) :=
  s :: match s.request with
    | .emit e => within e s.hub
    | _ => []

/-- All steps to which a delivery within a bound leads, those of the deliveries within it included. -/
def allSteps : Nat → Event → Hub σ → List (Step σ)
  | 0, _, _ => []
  | depth + 1, e, h =>
    (stepsOf (deliver depth) e (h.bus.hearers e) (h.begun e)).flatMap (Step.opened (allSteps depth))

end Hub

/-- All steps to which a routine leads, those of the listeners that are called included. -/
def Routine.allSteps (depth : Nat) (r : Routine σ) (h : Hub σ) : List (Hub.Step σ) :=
  (r.steps (Hub.deliver depth) h).flatMap (Hub.Step.opened (Hub.allSteps depth))

section Accounted
variable {d : Delivery σ} {within : Event → Hub σ → List (Hub.Step σ)}
  (accounted : ∀ e h, Hub.Accounts h.bus (within e h) (d e h))
include accounted

/-- Where deliveries are accounted for, routines are. -/
theorem Routine.accounts (r : Routine σ) (h : Hub σ) :
    Hub.Accounts h.bus ((r.steps d h).flatMap (Hub.Step.opened within)) (r.run d h) := by
  induction r generalizing h with
  | done o => exact .nil o h
  | emit e next ih =>
    -- What the delivery leads to stands between the emission and what the routine does with its answer.
    have delivery := accounted e h
    rw [steps, run, List.flatMap_cons]
    refine .cons (s := ⟨h, .emit e⟩) ?_
    cases hd : d e h with
    | none =>
      rw [hd] at delivery
      change Hub.Accounts h.bus (within e h ++ []) none
      rwa [List.append_nil]
    | some answered =>
      rw [hd] at delivery
      exact delivery.append (ih answered.1 answered.2)
  | subscribe f k next _ ih =>
    exact .cons (s := ⟨h, .subscribe f k⟩) (ih _ { h with bus := (h.bus.subscribe f k).2 })
  | unsubscribe id next ih =>
    exact .cons (s := ⟨h, .unsubscribe id⟩) (ih _ { h with bus := (h.bus.unsubscribe id).2 })
  | count next ih => exact ih _ h
  | note rs next ih => exact ih _ { h with session := rs.foldl Session.note h.session }
  | openWindow document url config next ih =>
    exact ih _ { h with session := (h.session.openWindow document url config).2 }
  | evaluate page source next ih =>
    exact ih _ { h with session := (h.session.evaluate .quiet page.window source).2 }
  | read next ih => exact ih _ h
  | write m next ih => exact ih _ { h with memory := m }

theorem Hub.callAll_accounts (e : Event) (ls : List (Listener σ)) (h : Hub σ) :
    Accounts h.bus ((stepsOf d e ls h).flatMap (Step.opened within)) (callAll d e ls h) := by
  induction ls generalizing h with
  | nil => exact .nil (.ok ()) h
  | cons l ls ih =>
    have first := Routine.accounts accounted (l.handler e) h
    rw [stepsOf, callAll, List.flatMap_append]
    cases hr : (l.handler e).run d h with
    | none =>
      rw [hr] at first
      simpa using first
    | some ran =>
      obtain ⟨o, h₁⟩ := ran
      rw [hr] at first
      cases o with
      | ok => exact first.append (ih h₁)
      | error x => simpa using first

end Accounted

theorem Hub.deliver_accounts (depth : Nat) (e : Event) (h : Hub σ) :
    Accounts h.bus (allSteps depth e h) (deliver depth e h) := by
  induction depth generalizing e h with
  | zero => exact ⟨h.bus, rfl, nofun⟩
  | succ depth ih => exact callAll_accounts ih e (h.bus.hearers e) (h.begun e)

/-! ### A run -/

/-- However a routine runs on a new bus, and whatever the listeners do that its emissions call, at any depth: its
steps account for the bus in the end; before and after each of them the numbers in the table increase and lie below
the next one, and the limit is kept; each does what it answers to have done; and the numbers that they give are
those from one on, none of them twice, as long as the last number there is was not given. -/
theorem Routine.allSteps_keep_register (config : BusConfig) (session : Session) (memory : σ) (depth : Nat)
    (r : Routine σ)
    (few : (Hub.given (r.allSteps depth ⟨{ config }, session, memory⟩)).length < Bus.lastNumber) :
    let start : Hub σ := ⟨{ config }, session, memory⟩
    let steps := r.allSteps depth start
    let answer := r.run (Hub.deliver depth) start
    Hub.Accounts start.bus steps answer ∧
      (∀ s ∈ steps, s.hub.bus.InOrder config ∧ s.after.InOrder config ∧ s.Lawful) ∧
      (∀ o h, answer = some (o, h) → h.bus.InOrder config) ∧
      (Hub.given steps).Nodup ∧ Hub.given steps = (List.range' 1 (Hub.given steps).length).map .mk := by
  intro start steps answer
  have accounts : Hub.Accounts start.bus steps answer := r.accounts (Hub.deliver_accounts depth) start
  refine ⟨accounts, ?_⟩
  obtain ⟨b', joined, last⟩ := accounts
  obtain ⟨dense, hlast, all⟩ := joined.keeps (Bus.inOrder_empty config) (Nat.one_add_le_iff.mpr few)
  refine ⟨fun s hs => ?_, fun o h ho => last o h ho ▸ hlast, ?_, dense⟩
  · obtain ⟨before, after⟩ := all s hs
    exact ⟨before, after, Hub.Step.lawful before⟩
  · rw [dense]
    exact List.Pairwise.map _ (fun m n ne same => ne (congrArg ListenerId.number same)) List.nodup_range'

/-- Gives its place to another. -/
def Hub.guest : Handler (List String) := fun _ =>
  .unsubscribe ⟨1⟩ fun _ => .subscribe .all (scribe "next ") fun _ => .ok

/-- Two want the one place of a bus; who had it first is looked for after it was given away. -/
def Hub.visit : Routine (List String) :=
  .subscribe .all guest fun _ => .subscribe .all guest fun _ => .announce (.traverseStart "r") fun _ =>
    .unsubscribe ⟨1⟩ fun _ => .announce (.traverseEnd "r") fun _ => .ok

/-- The second number is given while the first emission is delivered. -/
theorem Routine.allSteps_keep_register_visit :
    let start : Hub (List String) := ⟨{ config := ⟨1⟩ }, {}, []⟩
    let steps := Hub.visit.allSteps 2 start
    steps.length = 7 ∧ Hub.given steps = [⟨1⟩, ⟨2⟩] ∧
      (Hub.visit.run (Hub.deliver 2) start).map (fun answer => (answer.2.bus.next, answer.2.memory)) =
        some (3, ["next traverse::end"]) ∧
      (∀ s ∈ steps, s.hub.bus.InOrder ⟨1⟩ ∧ s.after.InOrder ⟨1⟩ ∧ s.Lawful) ∧ (Hub.given steps).Nodup := by
  intro start steps
  have given : Hub.given steps = [⟨1⟩, ⟨2⟩] := by decide
  have few : (Hub.given steps).length < Bus.lastNumber := by
    rw [given]
    decide
  have register := allSteps_keep_register ⟨1⟩ {} [] 2 Hub.visit few
  exact ⟨by decide, given, by decide, register.2.1, register.2.2.2.1⟩

end Pagewalk
