import Pagewalk.Proofs.Event.Emissions
import Pagewalk.Walk

/-!
# The walk and its sequence

A walk with a stack of frames is the announcement of one list of events, the sequence that `visit` gives by
recursion on the tree. What the stack still has to tell is a list too (`ahead`), and each turn of the walk takes
events from its front. The steps down and up of the sequence are balanced, so those of a walk that was broken off
are the beginning of a balanced word.
-/

namespace Pagewalk

theorem Element.children_induction {motive : Element → Prop}
    (step : ∀ e : Element, (∀ c ∈ e.children, motive c) → motive e) (e : Element) : motive e :=
  step e fun c _ => Element.children_induction step c
termination_by e.size
decreasing_by exact Element.size_lt_of_mem_children ‹_›

namespace Walk
open Routine

variable {σ : Type} (d : Document) (resource : String)

theorem visit_eq (e : Element) :
    visit d resource e =
      entering d resource e ++ e.children.flatMap (visit d resource) ++ [leaving d resource e] := by
  rw [visit]
  congr 2
  simp only [List.flatMap_def, List.map_attach_eq_pmap, List.pmap_eq_map]

/-! ### The stack -/

/-- What a walk has still to tell from a stack of frames. -/
def ahead (frames : List Frame) : List Event :=
  frames.flatMap fun f => f.ahead.flatMap (visit d resource) ++ [leaving d resource f.element]

/-- The number of elements that some events enter. -/
def entered (es : List Event) : Nat := es.countP fun e => e.kind == .element

theorem ahead_left (e : Element) (frames : List Frame) :
    ahead d resource (⟨e, []⟩ :: frames) = leaving d resource e :: ahead d resource frames := rfl

theorem ahead_entered (e c : Element) (cs : List Element) (frames : List Frame) :
    ahead d resource (⟨e, c :: cs⟩ :: frames) =
      entering d resource c ++ ahead d resource (.of c :: ⟨e, cs⟩ :: frames) := by
  simp only [ahead, Frame.of, List.flatMap_cons, visit_eq d resource c, List.append_assoc]

theorem entered_append (es fs : List Event) : entered (es ++ fs) = entered es + entered fs := List.countP_append

theorem entered_entering (e : Element) : entered (entering d resource e) = 1 := rfl

theorem entered_cons_of_ne {e : Event} (h : e.kind ≠ .element) (es : List Event) : entered (e :: es) = entered es :=
  List.countP_cons_of_neg (by simpa using h)

/-- A walk from a stack of frames announces what the stack has still to tell. -/
theorem onward_eq (frames : List Frame) (met : Nat) (next : Nat → Routine σ) :
    onward d resource frames met next =
      announceAll (ahead d resource frames) fun _ => next (met + entered (ahead d resource frames)) := by
  fun_induction onward d resource frames met next with
  | case1 met next => rfl
  | case2 met next e frames ih =>
    rw [ahead_left, entered_cons_of_ne (by simp [leaving, Event.kind])]
    simp only [announceAll, ih]
  | case3 met next e c cs frames ih =>
    rw [ahead_entered, announceAll_append, entered_append, entered_entering]
    simp only [ih, Nat.add_assoc]

/-- A walk is the announcement of its sequence, with the record at the end. -/
theorem walk_eq : (d.walk resource : Routine σ) =
    announceAll (events d resource) fun _ =>
      .note [record resource (entered (events d resource))] fun _ => .ok := by
  have rest : ahead d resource [.of d.root] =
      d.root.children.flatMap (visit d resource) ++ [leaving d resource d.root] := by
    simp only [ahead, Frame.of, List.flatMap_cons, List.flatMap_nil, List.append_nil]
  have whole : events d resource = .traverseStart resource ::
      (entering d resource d.root ++ (ahead d resource [.of d.root] ++ [.traverseEnd resource])) := by
    simp only [events, visit_eq d resource d.root, rest, List.append_assoc, List.cons_append]
  have count : entered (events d resource) = 1 + entered (ahead d resource [.of d.root]) := by
    rw [whole, entered_cons_of_ne (by simp [Event.kind]), entered_append, entered_append, entered_entering,
      entered_cons_of_ne (by simp [Event.kind])]
    rfl
  rw [count, whole]
  simp only [Document.walk, onward_eq, announceAll, announceAll_append]

/-- A walk tells its sequence, whatever the listeners do. -/
theorem tells_walk (deliver : Delivery σ) (h : Hub σ) :
    Tells (events d resource) ((d.walk resource).emissions deliver h) ((d.walk resource).result deliver h) := by
  have told := tells_announceAll deliver (events d resource) []
    (fun _ => note [record resource (entered (events d resource))] fun _ => ok) (fun _ => .all) h
  rwa [List.append_nil, ← walk_eq] at told

/-! ### Steps down and up -/

/-- A walk steps down into an element or up from it. -/
def isTurn : Event → Bool
  | .traverseDown .. => true
  | .traverseUp .. => true
  | _ => false

/-- Words of steps in which each step down is followed by the step up from the same element, with a balanced word
between them. -/
inductive Balanced : List Event → Prop where
  | nil : Balanced []
  | pair {inner rest : List Event} (resource : String) (target : PageElement) (within : Balanced inner)
      (beyond : Balanced rest) :
      Balanced (.traverseDown resource target :: inner ++ .traverseUp resource target :: rest)

theorem Balanced.append {es fs : List Event} (he : Balanced es) (hf : Balanced fs) : Balanced (es ++ fs) := by
  induction he with
  | nil => exact hf
  | @pair inner rest resource target within _ _ ih =>
    have := Balanced.pair resource target within ih
    simpa only [List.cons_append, List.append_assoc] using this

theorem Balanced.flatMap {es : List Element} {word : Element → List Event} (h : ∀ e ∈ es, Balanced (word e)) :
    Balanced (es.flatMap word) := by
  induction es with
  | nil => exact .nil
  | cons e es ih =>
    rw [List.flatMap_cons]
    exact (h e (List.mem_cons_self ..)).append (ih fun x hx => h x (List.mem_cons_of_mem _ hx))

/-- The steps of an element and of what is below it are balanced. -/
theorem balanced_visit (e : Element) : Balanced ((visit d resource e).filter isTurn) := by
  induction e using Element.children_induction with
  | step e ih =>
    have inner : Balanced ((e.children.flatMap (visit d resource)).filter isTurn) := by
      rw [List.filter_flatMap]
      exact .flatMap ih
    rw [visit_eq, List.filter_append, List.filter_append]
    exact .pair resource ⟨d, e⟩ inner .nil

theorem balanced_events : Balanced ((events d resource).filter isTurn) := by
  have turns : (events d resource).filter isTurn = (visit d resource d.root).filter isTurn := by
    rw [events, List.cons_append, List.filter_cons_of_neg (by simp [isTurn]), List.filter_append]
    exact List.append_nil _
  rw [turns]
  exact balanced_visit d resource d.root

/-- On any hub, a walk emits its sequence up to the first emission that is not heard well, which is then the last
one and gives the result; without such an emission it emits the whole sequence and ends well. The steps down and up
emitted so far are at any moment the beginning of a balanced word. With the same answers a walk on another hub,
whatever its listeners are and do, emits the same events. -/
theorem walk_emissions (depth : Nat) (h : Hub σ) :
    let own := (d.walk resource).emissions (Hub.deliver depth) h
    let answer := (d.walk resource).result (Hub.deliver depth) h
    own.map (·.event) <+: events d resource ∧
    ((∀ a ∈ own, a.answer = some (.ok ())) → own.map (·.event) = events d resource ∧ answer = some (.ok ())) ∧
    (∀ before a after, own = before ++ a :: after → a.answer ≠ some (.ok ()) → after = [] ∧ answer = a.answer) ∧
    (∀ sofar, sofar <+: own → ∃ word, Balanced word ∧ (sofar.map (·.event)).filter isTurn <+: word) ∧
    ∀ {τ : Type} (depth' : Nat) (h' : Hub τ),
      let other := (d.walk resource).emissions (Hub.deliver depth') h'
      other.map (·.answer) = own.map (·.answer) → other.map (·.event) = own.map (·.event) := by
  intro own answer
  have told : Tells (events d resource) own answer := tells_walk d resource (Hub.deliver depth) h
  refine ⟨told.events_begin, told.all_of_heard, fun _ _ _ => told.stops_at, fun sofar hs => ?_, fun depth' h' => ?_⟩
  · have begun : sofar.map (·.event) <+: events d resource := (hs.map _).trans told.events_begin
    exact ⟨_, balanced_events d resource, begun.filter isTurn⟩
  · exact (tells_walk d resource (Hub.deliver depth') h').eq_of_answers told

end Walk

end Pagewalk
