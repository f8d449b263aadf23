import Mathlib
import Pagewalk.Proofs.Cycle
import Pagewalk.Proofs.Event.Turns

/-!
# Cycles within cycles

A listener may report a fetch from inside any event, so that a whole cycle runs in the middle of another. Where one
listener reads every page that is fetched and all others emit nothing but fetches, what is seen of a run beside the
fetches are whole cycles, one for each fetch of markup.
-/

namespace Pagewalk

/-- The event is a fetch. -/
def Event.isFetch (e : Event) : Bool := e.kind == .fetchEnd

/-- The fetch of markup that an event is. -/
def Event.page? : Event → Option Fetch
  | .fetchEnd f => if f.type = .html then some f else none
  | _ => none

namespace Event

theorem page?_eq_some {e : Event} {f : Fetch} : e.page? = some f ↔ e = .fetchEnd f ∧ f.type = .html := by
  cases e with
  | fetchEnd g =>
    simp only [page?, Option.ite_none_right_eq_some, Option.some.injEq, Event.fetchEnd.injEq]
    constructor
    · rintro ⟨markup, rfl⟩
      exact ⟨rfl, markup⟩
    · rintro ⟨rfl, markup⟩
      exact ⟨markup, rfl⟩
  | _ => exact iff_of_false nofun fun ⟨no, _⟩ => nomatch no

/-- A listener for pages hears exactly the fetches of markup. -/
theorem filter_admits (e : Event) : Cycle.filter.admits e = e.page?.isSome := by
  cases e with
  | fetchEnd f =>
    simp only [Cycle.filter, EventFilter.admits, page?]
    split <;> simp_all
  | _ => rfl

/-- What is told beside fetches. -/
def besideFetches (es : List Event) : List Event := es.filter fun e => !e.isFetch

/-- The fetches of markup among events. -/
def pages (es : List Event) : List Fetch := es.filterMap page?

end Event

namespace Cycle
open Event

/-- A cycle that was told to its end: its fetch, the text that was read, and the page that shows it. -/
structure Told where
  fetch : Fetch
  html : String
  page : OpenPage

namespace Told

/-- The events of a cycle. -/
def events (t : Told) : List Event := sequence t.fetch t.html t.page

/-- The cycle is one for markup, and its text and its document are what is read of its fetch. -/
structure Reads (config : CycleConfig) (t : Told) : Prop where
  markup : t.fetch.type = .html
  reading : Cycle.reading config.page t.fetch = .ok (t.html, t.page.document)

end Told

/-- How many events of a kind there are. -/
def tally (k : EventKind) (es : List Event) : Nat := es.countP fun e => e.kind == k

theorem tally_append (k : EventKind) (es fs : List Event) : tally k (es ++ fs) = tally k es + tally k fs :=
  List.countP_append

theorem tally_flatMap {α : Type} (k : EventKind) (as : List α) (word : α → List Event) :
    tally k (as.flatMap word) = (as.map fun a => tally k (word a)).sum := List.countP_flatMap

/-- A walk goes down and up as often as it meets an element. -/
theorem tally_visit (d : Document) (resource : String) (e : Element) {k : EventKind}
    (hk : k = .traverseDown ∨ k = .traverseUp) :
    tally k (Walk.visit d resource e) = tally .element (Walk.visit d resource e) := by
  induction e using Element.children_induction with
  | step e ih =>
    have below : tally k (e.children.flatMap (Walk.visit d resource)) =
        tally .element (e.children.flatMap (Walk.visit d resource)) := by
      rw [tally_flatMap, tally_flatMap]
      exact congrArg List.sum (List.map_congr_left ih)
    have ends : tally k (Walk.entering d resource e) + tally k [Walk.leaving d resource e] =
        tally .element (Walk.entering d resource e) + tally .element [Walk.leaving d resource e] := by
      rcases hk with rfl | rfl <;> rfl
    simp only [Walk.visit_eq, tally_append]
    omega

theorem tally_visit_eq_zero (d : Document) (resource : String) (e : Element) {k : EventKind}
    (hk : k ∉ [EventKind.element, .traverseDown, .traverseUp]) : tally k (Walk.visit d resource e) = 0 := by
  rw [tally, List.countP_eq_zero]
  intro x hx same
  exact hk (beq_iff_eq.mp same ▸ Walk.kind_of_mem_visit d resource e x hx)

section Sequence
variable (f : Fetch) (html : String) (page : OpenPage)

theorem tally_sequence (k : EventKind) : tally k (sequence f html page) =
    tally k (Walk.visit page.document f.resource page.document.root) +
      [EventKind.parseStart, .parseEnd, .traverseStart, .traverseEnd].count k := by
  have split : sequence f html page =
      [.parseStart f.resource, .parseEnd f.resource html page, .traverseStart f.resource] ++
        (Walk.visit page.document f.resource page.document.root ++ [.traverseEnd f.resource]) := rfl
  rw [split, tally_append, tally_append]
  cases k <;> simp [tally, Event.kind] <;> omega

/-- A cycle begins and ends its reading and its walk once. -/
theorem tally_sequence_of_mem {k : EventKind}
    (hk : k ∈ [EventKind.parseStart, .parseEnd, .traverseStart, .traverseEnd]) :
    tally k (sequence f html page) = 1 := by
  simp only [List.mem_cons, List.not_mem_nil, or_false] at hk
  rcases hk with rfl | rfl | rfl | rfl <;>
  · rw [tally_sequence, tally_visit_eq_zero _ _ _ (by decide)]
    rfl

/-- A cycle goes down and up as often as it meets an element. -/
theorem tally_sequence_turns {k : EventKind} (hk : k = .traverseDown ∨ k = .traverseUp) :
    tally k (sequence f html page) = tally .element (sequence f html page) := by
  rw [tally_sequence, tally_sequence, tally_visit _ _ _ hk]
  rcases hk with rfl | rfl <;> rfl

theorem isFetch_of_mem_sequence : ∀ x ∈ sequence f html page, x.isFetch = false := by
  intro x hx
  have none_told : tally .fetchEnd (sequence f html page) = 0 := by
    rw [tally_sequence, tally_visit_eq_zero _ _ _ (by decide)]
    rfl
  exact Bool.eq_false_iff.mpr (List.countP_eq_zero.mp none_told x hx)

theorem besideFetches_sequence : besideFetches (sequence f html page) = sequence f html page :=
  List.filter_eq_self.mpr fun x hx => by rw [isFetch_of_mem_sequence f html page x hx]; rfl

end Sequence

theorem tally_besideFetches {k : EventKind} (hk : k ≠ .fetchEnd) (es : List Event) :
    tally k (besideFetches es) = tally k es := by
  rw [tally, besideFetches, List.countP_filter]
  refine List.countP_congr fun e _ => ?_
  simp only [isFetch, Bool.and_eq_true, beq_iff_eq, Bool.not_eq_true', beq_eq_false_iff_ne, and_iff_left_iff_imp]
  rintro rfl
  exact hk

/-! ### What is seen -/

/-- What is seen beside fetches are some events of one's own and whole cycles, one for each fetch of markup that is
seen or was asked for besides. -/
def Explains (config : CycleConfig) (own : List Event) (asked : List Fetch) (seen : List Event) : Prop :=
  ∃ cs : List Told, (∀ c ∈ cs, c.Reads config) ∧ (besideFetches seen).Perm (own ++ cs.flatMap Told.events) ∧
    (asked ++ pages seen).Perm (cs.map Told.fetch)

namespace Explains
variable {config : CycleConfig} {own own' seen seen' : List Event} {asked asked' : List Fetch}

theorem nil : Explains config [] [] [] := ⟨[], List.forall_mem_nil _, .nil, .nil⟩

theorem append (a : Explains config own asked seen) (b : Explains config own' asked' seen') :
    Explains config (own ++ own') (asked ++ asked') (seen ++ seen') := by
  obtain ⟨cs, reads, beside, fetched⟩ := a
  obtain ⟨cs', reads', beside', fetched'⟩ := b
  refine ⟨cs ++ cs', List.forall_mem_append.mpr ⟨reads, reads'⟩, ?_, ?_⟩
  · have split : besideFetches (seen ++ seen') = besideFetches seen ++ besideFetches seen' := List.filter_append ..
    rw [split, List.flatMap_append]
    refine (beside.append beside').trans ?_
    rw [List.append_assoc, List.append_assoc]
    refine .append_left own ?_
    rw [← List.append_assoc, ← List.append_assoc]
    exact List.perm_append_comm.append_right _
  · have split : pages (seen ++ seen') = pages seen ++ pages seen' := List.filterMap_append ..
    rw [split, List.map_append]
    refine List.Perm.trans ?_ (fetched.append fetched')
    rw [List.append_assoc, List.append_assoc]
    refine .append_left asked ?_
    rw [← List.append_assoc, ← List.append_assoc]
    exact List.perm_append_comm.append_right _

/-- Whatever is seen in another order is explained in the same way. -/
theorem of_perm (a : Explains config own asked seen) (same : seen'.Perm seen) : Explains config own asked seen' := by
  obtain ⟨cs, reads, beside, fetched⟩ := a
  exact ⟨cs, reads, (same.filter _).trans beside, ((same.filterMap _).append_left asked).trans fetched⟩

/-- One's own events are one whole cycle, and the fetch for which it was told was asked for besides. -/
theorem of_told {t : Told} (reads : t.Reads config) (a : Explains config t.events [] seen) :
    Explains config [] [t.fetch] seen := by
  obtain ⟨cs, all, beside, fetched⟩ := a
  exact ⟨t :: cs, List.forall_mem_cons.mpr ⟨reads, all⟩, beside, fetched.cons t.fetch⟩

/-- An event that is seen itself counts among what one tells, or among what was asked for. -/
theorem see {e : Event} (a : Explains config [] (pages [e]) seen) :
    Explains config (besideFetches [e]) [] (e :: seen) := by
  obtain ⟨cs, reads, beside, fetched⟩ := a
  refine ⟨cs, reads, ?_, ?_⟩
  · have split : besideFetches (e :: seen) = besideFetches [e] ++ besideFetches seen := List.filter_append [e] seen
    rw [split]
    exact beside.append_left _
  · have split : pages (e :: seen) = pages [e] ++ pages seen := List.filterMap_append (l := [e])
    rw [List.nil_append, split]
    exact fetched

end Explains

/-! ### Runs -/

variable {σ : Type}

/-- The listener stands in the table of a hub, and nobody else has its number. -/
def IsAttached (l : Listener σ) (h : Hub σ) : Prop := h.bus.listeners.filter (fun l' => l'.id == l.id) = [l]

theorem IsAttached.eq_of_id {l l' : Listener σ} {h : Hub σ} (a : IsAttached l h) (hmem : l' ∈ h.bus.listeners)
    (same : l'.id = l.id) : l' = l := by
  have : l' ∈ h.bus.listeners.filter fun l' => l'.id == l.id := List.mem_filter.mpr ⟨hmem, by simpa using same⟩
  rw [a] at this
  exact List.mem_singleton.mp this

/-- An event as often as a listener of some number is called with it. -/
def calls (id : ListenerId) (e : Event) (ls : List (Listener σ)) : List Event :=
  (ls.filter fun l => l.id == id).map fun _ => e

theorem calls_cons (id : ListenerId) (e : Event) (l : Listener σ) (ls : List (Listener σ)) :
    calls id e (l :: ls) = (if l.id = id then [e] else []) ++ calls id e ls := by
  by_cases same : l.id = id
  · rw [if_pos same, calls, List.filter_cons_of_pos (by simpa using same)]
    rfl
  · rw [if_neg same, calls, List.filter_cons_of_neg (by simpa using same)]
    rfl

/-- An attached listener is called once with an event that it hears. -/
theorem IsAttached.calls_hearers {l : Listener σ} {h : Hub σ} (a : IsAttached l h) (e : Event) :
    calls l.id e (h.bus.hearers e) = if l.filter.admits e then [e] else [] := by
  have swap : ((h.bus.hearers e).filter fun l' => l'.id == l.id) =
      (h.bus.listeners.filter fun l' => l'.id == l.id).filter fun l' => l'.filter.admits e := by
    rw [Bus.hearers, List.filter_filter, List.filter_filter]
    exact List.filter_congr fun _ _ => Bool.and_comm _ _
  rw [calls, swap, a]
  cases hears : l.filter.admits e <;> simp [hears]

/-- Who takes part in a run: one that reads pages, and one that hears everything. -/
structure Parties (config : CycleConfig) (σ : Type) where
  reader : Listener σ
  recorder : Listener σ
  reader_filter : reader.filter = Cycle.filter
  reader_handler : reader.handler = listener config
  recorder_filter : recorder.filter = .all

variable {config : CycleConfig} {p : Parties config σ}

/-- An emission is heard well, and both parties are attached when it is made. -/
structure Parties.Attend (p : Parties config σ) (u : Hub.Utterance σ) : Prop where
  heard : u.IsHeard
  reader : IsAttached p.reader u.hub
  recorder : IsAttached p.recorder u.hub

/-- In a turn all emissions are attended, and they are fetches unless it is the reader's. -/
structure Parties.Allows (p : Parties config σ) (t : Hub.Turn σ) : Prop where
  attended : ∀ u ∈ t.uttered, p.Attend u
  fetches : t.listener.id ≠ p.reader.id → ∀ u ∈ t.uttered, u.event.isFetch = true

/-- A completed run of a routine that emits nothing but fetches, among listeners that emit nothing but fetches unless
it is the one that reads pages. No listener gives up, and both parties stay attached. -/
structure Parties.Run (p : Parties config σ) (depth : Nat) (r : Routine σ) (h : Hub σ) : Prop where
  attended : ∀ u ∈ r.utterances (Hub.deliver depth) h, p.Attend u
  fetches : ∀ u ∈ r.utterances (Hub.deliver depth) h, u.event.isFetch = true
  turns : ∀ t ∈ r.turns depth h, p.Allows t

/-- Each utterance has the answer of the delivery of its event. -/
theorem answer_of_mem_utterances {d : Delivery σ} {r : Routine σ} {h : Hub σ} :
    ∀ u ∈ r.utterances d h, (d u.event u.hub).map Prod.fst = u.answer := by
  intro u hu
  obtain ⟨⟨hub, request⟩, -, hs⟩ := List.mem_filterMap.mp hu
  cases request with
  | emit e =>
    cases hs
    rfl
  | subscribe f k => cases hs
  | unsubscribe id => cases hs

/-- A cycle that ends well tells its whole sequence. -/
theorem told_of_ended {f : Fetch} (hf : f.type = .html) {d : Delivery σ} {h h' : Hub σ}
    (hr : (handle config f).run d h = some (.ok (), h')) :
    ∃ t : Told, t.Reads config ∧ t.fetch = f ∧ ((handle config f).utterances d h).map (·.event) = t.events := by
  have result : (handle config f).result d h = some (.ok ()) := by rw [Routine.result, hr]; rfl
  rw [handle_of_html hf] at result ⊢
  have events : ((read config f).utterances d h).map (·.event) =
      ((read config f).emissions d h).map (·.event) := by
    rw [Routine.emissions_eq, List.map_map]
    rfl
  cases hread : reading config.page f with
  | ok page =>
    obtain ⟨w, told⟩ := tells_read d h hread
    refine ⟨⟨f, page.1, w, page.2, (location f).2⟩, ⟨hf, hread⟩, rfl, ?_⟩
    rw [events, told.ended_well_iff.mp result, List.map_map]
    exact List.map_id _
  | error e =>
    -- A cycle whose page cannot be read does not end well.
    rcases read_of_error d h hread with ⟨-, failed⟩ | ⟨answer, unheard, -, failed⟩
    · rw [result] at failed
      cases failed
    · exact absurd (failed.symm.trans result) unheard

namespace Parties

/-- What the recorder sees of some turns. -/
def sees (p : Parties config σ) (ts : List (Hub.Turn σ)) : List Event := Hub.seenBy p.recorder.id ts

theorem sees_append (ts us : List (Hub.Turn σ)) : p.sees (ts ++ us) = p.sees ts ++ p.sees us := Hub.seenBy_append ts us

/-! ### One delivery

What a delivery leads to is explained where that holds of the deliveries within it. -/

section Delivered
variable {d : Delivery σ} {within : Event → Hub σ → List (Hub.Turn σ)}
  (explained : ∀ u : Hub.Utterance σ, p.Attend u → (d u.event u.hub).map Prod.fst = u.answer →
    (∀ t ∈ within u.event u.hub, p.Allows t) →
      Explains config (besideFetches [u.event]) [] (p.sees (within u.event u.hub)))
include explained

/-- Emissions that are made one after another. -/
theorem explains_utterances (us : List (Hub.Utterance σ)) (attended : ∀ u ∈ us, p.Attend u)
    (answers : ∀ u ∈ us, (d u.event u.hub).map Prod.fst = u.answer)
    (turns : ∀ t ∈ us.flatMap (fun u => within u.event u.hub), p.Allows t) :
    Explains config (besideFetches (us.map (·.event))) [] (p.sees (us.flatMap fun u => within u.event u.hub)) := by
  induction us with
  | nil => exact .nil
  | cons u us ih =>
    obtain ⟨here, attended⟩ := List.forall_mem_cons.mp attended
    obtain ⟨answer, answers⟩ := List.forall_mem_cons.mp answers
    rw [List.flatMap_cons] at turns ⊢
    obtain ⟨first, others⟩ := List.forall_mem_append.mp turns
    have split : besideFetches ((u :: us).map (·.event)) =
        besideFetches [u.event] ++ besideFetches (us.map (·.event)) := List.filter_append [u.event] _
    rw [sees_append, split]
    exact (explained u here answer first).append (ih attended answers others)

/-- One call that goes well: what the reader leads to was asked for by the event that it hears. -/
theorem explains_turn {l : Listener σ} {e : Event} {h h' : Hub σ} (hears : l.filter.admits e = true)
    (isReader : l.id = p.reader.id → l = p.reader)
    (hr : (l.handler e).run d h = some (.ok (), h')) (allowed : p.Allows ⟨l, e, (l.handler e).utterances d h⟩)
    (turns : ∀ t ∈ ((l.handler e).utterances d h).flatMap (fun u => within u.event u.hub), p.Allows t) :
    Explains config [] (pages (if l.id = p.reader.id then [e] else []))
      (p.sees (((l.handler e).utterances d h).flatMap fun u => within u.event u.hub)) := by
  have all := explains_utterances explained _ allowed.attended answer_of_mem_utterances turns
  by_cases same : l.id = p.reader.id
  · obtain rfl := isReader same
    rw [p.reader_filter] at hears
    rw [filter_admits] at hears
    obtain ⟨f, some⟩ := Option.isSome_iff_exists.mp hears
    obtain ⟨rfl, hf⟩ := page?_eq_some.mp some
    rw [p.reader_handler] at hr all ⊢
    obtain ⟨t, reads, rfl, events⟩ := told_of_ended hf hr
    have one : pages [.fetchEnd t.fetch] = [t.fetch] := List.filterMap_cons_some some
    have own : besideFetches (((listener config (.fetchEnd t.fetch)).utterances d h).map (·.event)) = t.events :=
      (congrArg besideFetches events).trans (besideFetches_sequence ..)
    rw [own] at all
    rw [if_pos rfl, one]
    exact .of_told reads all
  · -- Anyone else emits fetches only.
    have none_beside : besideFetches (((l.handler e).utterances d h).map (·.event)) = [] := by
      rw [besideFetches, List.filter_eq_nil_iff]
      intro x hx
      obtain ⟨u, hu, rfl⟩ := List.mem_map.mp hx
      rw [allowed.fetches same u hu]
      exact Bool.false_ne_true
    rw [none_beside] at all
    rw [if_neg same]
    exact all

/-- Calls one after another that all go well: the recorder sees the event as often as it is called, and the rest is
explained by the calls of the reader. -/
theorem explains_turnsOf {e : Event} {ls : List (Listener σ)} {h h' : Hub σ}
    (hears : ∀ l ∈ ls, l.filter.admits e = true) (isReader : ∀ l ∈ ls, l.id = p.reader.id → l = p.reader)
    (hc : Hub.callAll d e ls h = some (.ok (), h')) (turns : ∀ t ∈ Hub.turnsOf d within e ls h, p.Allows t) :
    ∃ rest, (p.sees (Hub.turnsOf d within e ls h)).Perm (calls p.recorder.id e ls ++ rest) ∧
      Explains config [] (pages (calls p.reader.id e ls)) rest := by
  induction ls generalizing h with
  | nil => exact ⟨[], .nil, .nil⟩
  | cons l ls ih =>
    obtain ⟨hearsHere, hears⟩ := List.forall_mem_cons.mp hears
    obtain ⟨here, isReader⟩ := List.forall_mem_cons.mp isReader
    rw [Hub.callAll] at hc
    rw [Hub.turnsOf] at turns ⊢
    cases hr : (l.handler e).run d h with
    | none =>
      rw [hr] at hc
      cases hc
    | some ran =>
      obtain ⟨o, h₁⟩ := ran
      cases o with
      | error x =>
        rw [hr] at hc
        cases hc
      | ok =>
        rw [hr] at hc turns
        simp only [List.cons_append, List.forall_mem_cons, List.forall_mem_append] at turns
        obtain ⟨allowed, led, turns⟩ := turns
        obtain ⟨rest, seen, explains⟩ := ih hears isReader hc turns
        -- What this call leads to comes before the later calls; the recorder's own are moved to the front.
        have one := explains_turn explained hearsHere here hr allowed led
        have split : pages (calls p.reader.id e (l :: ls)) =
            pages (if l.id = p.reader.id then [e] else []) ++ pages (calls p.reader.id e ls) := by
          rw [calls_cons]
          exact List.filterMap_append ..
        refine ⟨_, ?_, split ▸ one.append explains⟩
        rw [calls_cons, List.cons_append, sees, Hub.seenBy_cons, Hub.seenBy_append, List.append_assoc]
        refine .append_left _ ((seen.append_left _).trans ?_)
        rw [← List.append_assoc, ← List.append_assoc]
        exact List.perm_append_comm.append_right _

end Delivered

/-- What a delivery leads to that is heard well is explained by its event. -/
theorem explains_turns (depth : Nat) (u : Hub.Utterance σ) (attend : p.Attend u)
    (answer : (Hub.deliver depth u.event u.hub).map Prod.fst = u.answer)
    (turns : ∀ t ∈ Hub.turns depth u.event u.hub, p.Allows t) :
    Explains config (besideFetches [u.event]) [] (p.sees (Hub.turns depth u.event u.hub)) := by
  induction depth generalizing u with
  | zero =>
    rw [attend.heard] at answer
    cases answer
  | succ depth ih =>
    rw [attend.heard] at answer
    obtain ⟨⟨o, h'⟩, hd, rfl⟩ := Option.map_eq_some_iff.mp answer
    rw [Hub.deliver_succ] at hd
    have hears : ∀ l ∈ u.hub.bus.hearers u.event, l.filter.admits u.event = true :=
      fun l hl => (List.mem_filter.mp hl).2
    have isReader : ∀ l ∈ u.hub.bus.hearers u.event, l.id = p.reader.id → l = p.reader :=
      fun l hl same => attend.reader.eq_of_id (List.mem_filter.mp hl).1 same
    obtain ⟨rest, seen, explains⟩ := explains_turnsOf ih hears isReader hd turns
    rw [attend.recorder.calls_hearers, p.recorder_filter] at seen
    rw [attend.reader.calls_hearers, p.reader_filter, filter_admits] at explains
    -- An event that the reader does not hear is no page.
    have asked : pages (if u.event.page?.isSome then [u.event] else []) = pages [u.event] := by
      cases page : u.event.page? with
      | none => exact (List.filterMap_cons_none page).symm
      | some f => rfl
    rw [asked] at explains
    exact explains.see.of_perm seen

end Parties

/-! ### A whole run -/

/-- In a completed run with one reader of pages, what is seen beside the fetches are whole cycles, one for each fetch of
markup that is seen: its text and its document are what is read of that fetch. So as many readings and walks begin
and end as pages are fetched, other fetches bring none of these, and the walks go down and up as often as they meet
an element. -/
theorem seen_cycles {depth : Nat} {r : Routine σ} {h : Hub σ} (run : p.Run depth r h) :
    let seen := p.sees (r.turns depth h)
    (∀ k ∈ [EventKind.parseStart, .parseEnd, .traverseStart, .traverseEnd], tally k seen = (pages seen).length) ∧
    tally .traverseDown seen = tally .element seen ∧ tally .traverseUp seen = tally .element seen ∧
    ∃ cs : List Told, (∀ c ∈ cs, c.Reads config) ∧ (besideFetches seen).Perm (cs.flatMap Told.events) ∧
      (pages seen).Perm (cs.map Told.fetch) := by
  intro seen
  have own : besideFetches ((r.utterances (Hub.deliver depth) h).map (·.event)) = [] := by
    rw [besideFetches, List.filter_eq_nil_iff]
    intro x hx
    obtain ⟨u, hu, rfl⟩ := List.mem_map.mp hx
    rw [run.fetches u hu]
    exact Bool.false_ne_true
  have explains := Parties.explains_utterances (p := p) (Parties.explains_turns depth) _ run.attended
    answer_of_mem_utterances run.turns
  rw [own] at explains
  obtain ⟨cs, reads, beside, fetched⟩ := explains
  have total {k : EventKind} (hk : k ≠ .fetchEnd) : tally k seen = (cs.map fun c => tally k c.events).sum := by
    rw [← tally_besideFetches hk, ← tally_flatMap]
    exact beside.countP_eq _
  have turns {k : EventKind} (hk : k = .traverseDown ∨ k = .traverseUp) : tally k seen = tally .element seen := by
    rw [total (by rcases hk with rfl | rfl <;> decide), total (by decide)]
    exact congrArg List.sum (List.map_congr_left fun c _ => tally_sequence_turns _ _ _ hk)
  refine ⟨fun k hk => ?_, turns (.inl rfl), turns (.inr rfl), cs, reads, beside, fetched⟩
  have one : (cs.map fun c => tally k c.events) = cs.map fun _ => 1 :=
    List.map_congr_left fun c _ => tally_sequence_of_mem _ _ _ hk
  have count : (pages seen).length = cs.length := fetched.length_eq.trans (List.length_map ..)
  rw [total (by rintro rfl; revert hk; decide), one, count, List.map_const', List.sum_replicate_nat, Nat.mul_one]

/-! ### A page that is fetched from within another -/

/-- A run among listeners that leave the table alone, seen from its steps. -/
theorem Parties.Run.of_still {depth : Nat} {r : Routine σ} {h : Hub σ} (reader : IsAttached p.reader h)
    (recorder : IsAttached p.recorder h) (still : ∀ s ∈ r.allSteps depth h, s.IsEmission)
    (own : ∀ u ∈ r.utterances (Hub.deliver depth) h, u.IsHeard ∧ u.event.isFetch = true)
    (turns : ∀ t ∈ r.turns depth h, ∀ u ∈ t.uttered, u.IsHeard ∧
      (t.listener.id = p.reader.id ∨ u.event.isFetch = true)) : p.Run depth r h := by
  obtain ⟨same, sameIn⟩ := Routine.bus_eq_of_still still
  have attend {u : Hub.Utterance σ} (heard : u.IsHeard) (bus : u.hub.bus = h.bus) : p.Attend u :=
    ⟨heard, by rwa [IsAttached, bus], by rwa [IsAttached, bus]⟩
  refine ⟨fun u hu => attend (own u hu).1 (same u hu), fun u hu => (own u hu).2, fun t ht => ⟨fun u hu => ?_, ?_⟩⟩
  · exact attend (turns t ht u hu).1 (sameIn t ht u hu)
  · exact fun other u hu => (turns t ht u hu).2.resolve_left other

/-- One that reads pages, and one that hears everything and does nothing. -/
def library : Parties {} Unit where
  reader := ⟨⟨2⟩, Cycle.filter, listener {}⟩
  recorder := ⟨⟨1⟩, .all, fun _ => .ok⟩
  reader_filter := rfl
  reader_handler := rfl
  recorder_filter := rfl

/-- The fetch of some markup. -/
def fetched (resource html : String) : Event := .fetchEnd ⟨resource, "", "text/html", none, html, none⟩

/-- Both parties, and one that reports the fetch of another page for every paragraph. -/
def libraryHub : Hub Unit where
  bus := ⟨{}, 4, [library.recorder, library.reader,
    ⟨⟨3⟩, .element "p", fun _ => .announce (fetched "b" "") fun _ => .ok⟩]⟩
  session := {}
  memory := ()

/-- The fetch of a page with one paragraph. -/
def visit : Routine Unit := .announce (fetched "a" "<p>") fun _ => .ok

/-- The second page is read in the middle of the walk through the first. -/
theorem seen_cycles_visit :
    library.Run 4 visit libraryHub ∧
      let seen := library.sees (visit.turns 4 libraryHub)
      (pages seen).map (·.resource) = ["a", "b"] ∧ seen.length = 31 ∧ tally .element seen = 7 ∧
        tally .parseEnd seen = 2 ∧ tally .traverseUp seen = tally .element seen := by
  have run : library.Run 4 visit libraryHub := .of_still rfl rfl (by decide +kernel) (by decide +kernel)
    (by decide +kernel)
  have counts := seen_cycles run
  refine ⟨run, by decide +kernel, by decide +kernel, by decide +kernel, ?_, counts.2.2.1⟩
  rw [counts.1 .parseEnd (by decide)]
  decide +kernel

end Cycle

end Pagewalk
