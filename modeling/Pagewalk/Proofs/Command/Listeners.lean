import Pagewalk.Command.Report
import Pagewalk.Proofs.Command.Listings
import Pagewalk.Proofs.Event.Dispatch
import Pagewalk.Proofs.Logs

/-!
# The listeners of a report

Three listeners at most hear the events of a report. The first lists every event and never gives up. The second
hears the end of a reading alone, evaluates the scripts there and never gives up either. The third hears the fetch of
a page of markup alone, and what it announces is heard by the other two. So all that the listeners remember behind a
fetch is found from the page: the lines of its cycle, and what the scripts answer in its window.
-/

namespace Pagewalk

/-! ### Answers of scripts -/

namespace Session
variable {s s' : Session}

/-- Evaluates scripts in a window one after another, whatever comes of them. -/
def answers (s : Session) (w : WindowId) : List String → List (String × Except Error ScriptValue) × Session
  | [] => ([], s)
  | x :: xs =>
    let first := s.evaluate .quiet w x
    let rest := first.2.answers w xs
    ((x, first.1) :: rest.1, rest.2)

/-- The answers do not depend on the log. -/
theorem SameButLog.answers (h : s.SameButLog s') (w : WindowId) (scripts : List String) :
    SameAnswer (s.answers w scripts) (s'.answers w scripts) := by
  induction scripts generalizing s s' with
  | nil => exact ⟨rfl, h⟩
  | cons x xs ih =>
    obtain ⟨first, left⟩ := h.evaluate w x
    obtain ⟨rest, left⟩ := ih left
    refine ⟨?_, left⟩
    simp only [Session.answers, first, rest]

theorem map_fst_answers (s : Session) (w : WindowId) (scripts : List String) :
    (s.answers w scripts).1.map Prod.fst = scripts := by
  induction scripts generalizing s with
  | nil => rfl
  | cons x xs ih => exact congrArg (x :: ·) (ih _)

end Session

/-- What scripts answer one after another in a window that was just opened on a document. -/
def Document.answers (d : Document) (url : Option Url) (config : ScriptConfig) (scripts : List String) :
    List (String × Except Error ScriptValue) :=
  ((({} : Session).openWindow d url config).2.answers 0 scripts).1

/-- An event to which nobody objects lets the routine go on. -/
theorem Routine.run_announce {σ : Type} {deliver : Delivery σ} {e : Event} {next : Unit → Routine σ} {h h' : Hub σ}
    (hd : deliver e h = some (.ok (), h')) : (announce e next).run deliver h = (next ()).run deliver h' := by
  simp only [announce, run, hd]
  rfl

namespace Command
open Routine

/-- The bus of a report when all listeners are subscribed. -/
def listening (scripts : List String) (config : CycleConfig) : Bus Memory :=
  match scripts with
  | [] => ⟨{}, 3, [⟨⟨1⟩, .all, lister⟩, ⟨⟨2⟩, Cycle.filter, Cycle.listener config⟩]⟩
  | _ =>
    ⟨{}, 4, [⟨⟨1⟩, .all, lister⟩, ⟨⟨2⟩, .kind .parseEnd, evaluator scripts⟩,
      ⟨⟨3⟩, Cycle.filter, Cycle.listener config⟩]⟩

/-- A hub stands like this: it has this bus and this memory, and its session is this one up to its log. -/
structure Stands (bus : Bus Memory) (s : Session) (m : Memory) (h : Hub Memory) : Prop where
  bus_eq : h.bus = bus
  session : s.SameButLog h.session
  memory_eq : h.memory = m

/-- The hub when the first listener has listed an event. -/
def listed (e : Event) (h : Hub Memory) : Hub Memory :=
  { h.begun e with memory := { h.memory with listing := h.memory.listing.add e } }

namespace Stands
variable {bus : Bus Memory} {s : Session} {m : Memory} {h : Hub Memory}

theorem note (S : Stands bus s m h) (records : List Log.Record) :
    Stands bus s m { h with session := records.foldl Session.note h.session } :=
  ⟨S.bus_eq, S.session.trans (Session.sameButLog_noteAll _ _), S.memory_eq⟩

theorem listed (S : Stands bus s m h) (e : Event) :
    Stands bus s { m with listing := m.listing.add e } (Command.listed e h) := by
  obtain ⟨rfl, session, rfl⟩ := S
  exact ⟨rfl, session.trans (Session.sameButLog_note _ _), rfl⟩

/-- Scripts are evaluated up to the last, and their answers are remembered in their order. -/
theorem run_evaluateAll (S : Stands bus s m h) (deliver : Delivery Memory) (page : OpenPage) (scripts : List String) :
    ∃ h', (evaluateAll page scripts).run deliver h = some (.ok (), h') ∧
      Stands bus (s.answers page.window scripts).2
        { m with evaluations := m.evaluations ++ (s.answers page.window scripts).1.toArray } h' := by
  induction scripts generalizing s m h with
  | nil => exact ⟨h, rfl, S.bus_eq, S.session, by simpa [Session.answers] using S.memory_eq⟩
  | cons x xs ih =>
    obtain ⟨rfl, session, rfl⟩ := S
    obtain ⟨answer, left⟩ := session.evaluate page.window x
    let h₁ : Hub Memory :=
      ⟨h.bus, (h.session.evaluate .quiet page.window x).2,
        { h.memory with evaluations := h.memory.evaluations.push (x, (s.evaluate .quiet page.window x).1) }⟩
    obtain ⟨h', ran, S'⟩ := ih (show Stands h.bus (s.evaluate .quiet page.window x).2 h₁.memory h₁ from ⟨rfl, left, rfl⟩)
    have remembered : h.memory.evaluations ++ (s.answers page.window (x :: xs)).1.toArray = h₁.memory.evaluations ++
        ((s.evaluate .quiet page.window x).2.answers page.window xs).1.toArray := by
      simp [Session.answers, h₁]
    refine ⟨h', ?_, ?_⟩
    · rw [← ran]
      simp only [evaluateAll, run, change, answer, h₁]
    · rw [remembered]
      exact S'

end Stands

/-! ### Deliveries -/

/-- One listener that is called decides the answer. -/
theorem callAll_singleton {σ : Type} (deliver : Delivery σ) (e : Event) (l : Listener σ) (h : Hub σ) :
    Hub.callAll deliver e [l] h = (l.handler e).run deliver h := by
  rw [Hub.callAll]
  cases (l.handler e).run deliver h with
  | none => rfl
  | some ran =>
    obtain ⟨o, h'⟩ := ran
    cases o with
    | ok => rfl
    | error x => rfl

section Delivered
variable {scripts : List String} {config : CycleConfig} {s : Session} {m : Memory} {h : Hub Memory}

/-- The listeners behind the first that hear an event. -/
def beyond (scripts : List String) (config : CycleConfig) (e : Event) : List (Listener Memory) :=
  (listening scripts config).listeners.tail.filter fun l => l.filter.admits e

theorem deliver_eq (S : Stands (listening scripts config) s m h) (depth : Nat) (e : Event) :
    Hub.deliver (depth + 1) e h = Hub.callAll (Hub.deliver depth) e (beyond scripts config e) (listed e h) := by
  have hearers : h.bus.hearers e = ⟨⟨1⟩, .all, lister⟩ :: beyond scripts config e := by
    rw [S.bus_eq]
    cases scripts <;> rfl
  rw [Hub.deliver_succ, hearers]
  rfl

theorem beyond_of_other {e : Event} (fetch : e.kind ≠ .fetchEnd) (reading : e.kind ≠ .parseEnd) :
    beyond scripts config e = [] := by
  cases scripts <;> cases e <;> first | rfl | exact absurd rfl fetch | exact absurd rfl reading

/-- What is neither a fetch nor the end of a reading is listed, and that is all. -/
theorem deliver_other (S : Stands (listening scripts config) s m h) (depth : Nat) {e : Event}
    (fetch : e.kind ≠ .fetchEnd) (reading : e.kind ≠ .parseEnd) :
    Hub.deliver (depth + 1) e h = some (.ok (), listed e h) := by
  rw [deliver_eq S, beyond_of_other fetch reading]
  rfl

/-- At the end of a reading the scripts are evaluated in the window of the page. -/
theorem deliver_parseEnd (S : Stands (listening scripts config) s m h) (depth : Nat) (resource html : String)
    (page : OpenPage) : ∃ h', Hub.deliver (depth + 1) (.parseEnd resource html page) h = some (.ok (), h') ∧
      Stands (listening scripts config) (s.answers page.window scripts).2
        ⟨m.listing.add (.parseEnd resource html page),
          m.evaluations ++ (s.answers page.window scripts).1.toArray⟩ h' := by
  rw [deliver_eq S]
  cases scripts with
  | nil =>
    refine ⟨_, rfl, ?_⟩
    simpa [Session.answers] using S.listed (.parseEnd resource html page)
  | cons x xs =>
    obtain ⟨h', ran, S'⟩ := (S.listed (.parseEnd resource html page)).run_evaluateAll (Hub.deliver depth) page (x :: xs)
    exact ⟨h', (callAll_singleton ..).trans ran, S'⟩

/-- Events that are neither a fetch nor the end of a reading are all listed. -/
theorem run_announceAll (S : Stands (listening scripts config) s m h) (depth : Nat) {es : List Event}
    (others : ∀ e ∈ es, e.kind ≠ .fetchEnd ∧ e.kind ≠ .parseEnd) (next : Unit → Routine Memory) :
    ∃ h', (announceAll es next).run (Hub.deliver (depth + 1)) h = (next ()).run (Hub.deliver (depth + 1)) h' ∧
      Stands (listening scripts config) s { m with listing := m.listing.after es } h' := by
  induction es generalizing m h with
  | nil => exact ⟨h, rfl, S⟩
  | cons e es ih =>
    obtain ⟨⟨fetch, reading⟩, others⟩ := List.forall_mem_cons.mp others
    obtain ⟨h', ran, S'⟩ := ih (S.listed e) others
    exact ⟨h', (run_announce (deliver_other S depth fetch reading)).trans ran, S'⟩

end Delivered

/-! ### Cycles -/

theorem others_of_mem_events (d : Document) (resource : String) :
    ∀ e ∈ Walk.events d resource, e.kind ≠ .fetchEnd ∧ e.kind ≠ .parseEnd := by
  intro e he
  rw [Walk.events, List.cons_append, List.mem_cons, List.mem_append, List.mem_singleton] at he
  rcases he with rfl | he | rfl
  · constructor <;> intro no <;> cases no
  · have kind := Walk.kind_of_mem_visit d resource _ e he
    constructor <;> intro no <;> simp [no] at kind
  · constructor <;> intro no <;> cases no

section Attempts
variable {σ α : Type} {what resource : String} {r : Logged α} {next : α → Routine σ} {deliver : Delivery σ} {h : Hub σ}

theorem run_attempt_of_ok {a : α} (hr : r.2 = .ok a) : (Cycle.attempt what resource r next).run deliver h =
    (next a).run deliver { h with session := r.1.foldl Session.note h.session } := by
  obtain ⟨records, x⟩ := r
  cases hr
  rfl

theorem run_attempt_of_error {e : Error} (hr : r.2 = .error e) : ∃ session,
    (Cycle.attempt what resource r next).run deliver h = some (.error e, { h with session }) := by
  obtain ⟨records, x⟩ := r
  cases hr
  exact ⟨_, rfl⟩

end Attempts

section Read
variable {scripts : List String} {config : CycleConfig} {s : Session} {m : Memory} {h : Hub Memory} {f : Fetch}

/-- A walk is listed, and nobody objects to it. -/
theorem run_walk (S : Stands (listening scripts config) s m h) (depth : Nat) (d : Document) (resource : String) :
    ∃ h', (d.walk resource).run (Hub.deliver (depth + 1)) h = some (.ok (), h') ∧
      h'.memory = { m with listing := m.listing.after (Walk.events d resource) } := by
  rw [Walk.walk_eq]
  obtain ⟨h', ran, S'⟩ := run_announceAll S depth (others_of_mem_events d resource) _
  exact ⟨_, ran, S'.memory_eq⟩

/-- The start of a reading is listed. -/
theorem run_read (S : Stands (listening scripts config) s m h) (depth : Nat) :
    (Cycle.read config f).run (Hub.deliver (depth + 1)) h =
      (Cycle.readOn config f).run (Hub.deliver (depth + 1)) (listed (.parseStart f.resource) h) := by
  rw [Cycle.read_eq]
  have start : (Event.parseStart f.resource).kind ≠ .fetchEnd ∧ (Event.parseStart f.resource).kind ≠ .parseEnd := by
    constructor <;> intro no <;> cases no
  exact run_announce (deliver_other S depth start.1 start.2)

/-- A page that is read is listed with its walk, and the scripts are evaluated in its window. -/
theorem run_readOn {html : String} {d : Document} (S : Stands (listening scripts config) {} m h) (depth : Nat)
    (hr : Cycle.reading config.page f = .ok (html, d)) :
    ∃ h', (Cycle.readOn config f).run (Hub.deliver (depth + 1)) h = some (.ok (), h') ∧
      h'.memory = ⟨m.listing.after (.parseEnd f.resource html ⟨0, d, (Cycle.location f).2⟩ :: Walk.events d f.resource),
        m.evaluations ++ (d.answers (Cycle.location f).2 config.script scripts).toArray⟩ := by
  obtain ⟨hs, hp⟩ := Cycle.reading_eq_ok hr
  let decoded := (Cycle.source config.page f).1.foldl Session.note h.session
  let parsed := (Document.parse config.page html).1.foldl Session.note decoded
  let noted : Hub Memory := { h with session := (Cycle.location f).1.foldl Session.note parsed }
  have S₁ : Stands (listening scripts config) {} m noted := ((S.note _).note _).note _
  let opened := noted.session.openWindow d (Cycle.location f).2 config.script
  obtain ⟨window, session⟩ := S₁.session.openWindow d (Cycle.location f).2 config.script
  have S₂ : Stands (listening scripts config) (({} : Session).openWindow d (Cycle.location f).2 config.script).2 m
      { noted with session := opened.2 } := ⟨S₁.bus_eq, session, S₁.memory_eq⟩
  obtain ⟨h₃, delivered, S₃⟩ := deliver_parseEnd S₂ depth f.resource html ⟨0, d, (Cycle.location f).2⟩
  obtain ⟨h', walked, memory⟩ := run_walk S₃ depth d f.resource
  refine ⟨h', ?_, memory⟩
  rw [Cycle.readOn, run_attempt_of_ok hs, run_attempt_of_ok hp]
  change (announce (.parseEnd f.resource html ⟨opened.1, d, (Cycle.location f).2⟩) _).run _
    { noted with session := opened.2 } = _
  rw [show opened.1 = 0 from window, run_announce delivered, walked]

/-- A page that cannot be read is listed no further. -/
theorem run_readOn_of_error {e : Error} (S : Stands (listening scripts config) s m h) (deliver : Delivery Memory)
    (hr : Cycle.reading config.page f = .error e) :
    ∃ h', (Cycle.readOn config f).run deliver h = some (.error e, h') ∧ h'.memory = m := by
  rcases Cycle.reading_eq_error hr with hs | ⟨html, hs, hp⟩
  · obtain ⟨session, ran⟩ := run_attempt_of_error hs
    exact ⟨_, ran, S.memory_eq⟩
  · obtain ⟨session, ran⟩ := run_attempt_of_error hp
    exact ⟨_, (run_attempt_of_ok hs).trans ran, S.memory_eq⟩

end Read

/-! ### The whole run -/

/-- What the listeners remember when they heard some events and kept some evaluations. -/
def remembering (es : List Event) (evaluations : List Evaluation) : Memory :=
  ⟨({} : Listing).after es, evaluations.toArray⟩

section Performed
variable (a : Arguments) (f : Fetch)

/-- How pages are read for a report. -/
def Arguments.page (a : Arguments) : PageConfig := { strict := a.strict }

/-- The hub of a report when all listeners are subscribed. -/
def subscribed (a : Arguments) : Hub Memory := ⟨listening a.scripts { page := a.page }, {}, {}⟩

theorem stands_subscribed : Stands (listening a.scripts { page := a.page }) {} {} (subscribed a) := ⟨rfl, .refl _, rfl⟩

/-- The listeners are subscribed before the fetch is announced. -/
theorem run_routine (deliver : Delivery Memory) :
    (routine a f).run deliver start = (emit (.fetchEnd f) done).run deliver (subscribed a) := by
  rw [routine, subscribeEvaluator, subscribed]
  cases a.scripts <;> rfl

theorem beyond_fetchEnd (scripts : List String) (config : CycleConfig) : beyond scripts config (.fetchEnd f) =
    if f.type = .html then [⟨⟨if scripts.isEmpty then 2 else 3⟩, Cycle.filter, Cycle.listener config⟩] else [] := by
  by_cases hf : f.type = .html <;> cases scripts <;>
    simp [beyond, listening, EventFilter.admits, Cycle.filter, Event.kind, hf]

/-- What is no markup is listed, and that is all. -/
theorem perform_of_other (hf : f.type ≠ .html) : ∃ h, start.perform (routine a f) = (.ok (), h) ∧
    h.memory = remembering [.fetchEnd f] [] := by
  refine ⟨_, ?_, ((stands_subscribed a).listed (.fetchEnd f)).memory_eq⟩
  rw [Hub.perform, run_routine, run, show Hub.depthBound = 4095 + 1 from rfl, deliver_eq (stands_subscribed a),
    beyond_fetchEnd, if_neg hf]
  rfl

/-- A fetch of markup is answered as the listener for pages answers it. -/
theorem perform_of_html (hf : f.type = .html) {o : Outcome} {h : Hub Memory}
    (ran : (Cycle.read { page := a.page } f).run (Hub.deliver 4095) (listed (.fetchEnd f) (subscribed a)) =
      some (o, h)) : start.perform (routine a f) = (o, h) := by
  have handled : Cycle.listener { page := a.page } (.fetchEnd f) = (Cycle.read { page := a.page } f : Routine Memory) :=
    if_pos hf
  rw [← handled] at ran
  rw [Hub.perform, run_routine, run, show Hub.depthBound = 4095 + 1 from rfl, deliver_eq (stands_subscribed a),
    beyond_fetchEnd, if_pos hf, callAll_singleton, ran]
  rfl

/-- Of a page that cannot be read the start alone is listed, and the run ends with the error. -/
theorem perform_of_error (hf : f.type = .html) {e : Error} (hr : Cycle.reading a.page f = .error e) :
    ∃ h, start.perform (routine a f) = (.error e, h) ∧
      h.memory = remembering [.fetchEnd f, .parseStart f.resource] [] := by
  have S := (stands_subscribed a).listed (.fetchEnd f)
  obtain ⟨h, ran, memory⟩ := run_readOn_of_error (S.listed (.parseStart f.resource)) (Hub.deliver 4095) hr
  exact ⟨h, perform_of_html a f hf ((run_read S 4094).trans ran), memory⟩

/-- Of a page that is read the whole cycle is listed, and all scripts are evaluated in its window. -/
theorem perform_of_read (hf : f.type = .html) {html : String} {d : Document}
    (hr : Cycle.reading a.page f = .ok (html, d)) : ∃ h, start.perform (routine a f) = (.ok (), h) ∧
      h.memory = remembering (.fetchEnd f :: Cycle.sequence f html ⟨0, d, (Cycle.location f).2⟩)
        (d.answers (Cycle.location f).2 {} a.scripts) := by
  have S := (stands_subscribed a).listed (.fetchEnd f)
  obtain ⟨h, ran, memory⟩ := run_readOn (S.listed (.parseStart f.resource)) 4094 hr
  refine ⟨h, perform_of_html a f hf ((run_read S 4094).trans ran), ?_⟩
  rw [memory, remembering]
  simp only [Array.empty_append]
  rfl

end Performed

end Command

end Pagewalk
