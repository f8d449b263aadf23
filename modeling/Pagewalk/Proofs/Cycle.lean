import Pagewalk.Cycle
import Pagewalk.Proofs.Walk.Sequence

/-!
# The emissions of a cycle

A cycle tells the start of a reading, its end, and the walk through the page that was read, in this order. It stops
at the first emission that is not heard well. Where the page cannot be decoded or read, nothing is told behind the
start.
-/

namespace Pagewalk

/-- Every event of a walk belongs to the resource that was walked. -/
theorem Walk.resource_of_mem_visit (d : Document) (resource : String) (e : Element) :
    ∀ x ∈ visit d resource e, x.resource = resource := by
  induction e using Element.children_induction with
  | step e ih =>
    intro x hx
    rw [visit_eq, List.mem_append, List.mem_append, List.mem_flatMap] at hx
    rcases hx with (hx | ⟨c, hc, hx⟩) | hx
    · simp only [entering, List.mem_cons, List.not_mem_nil, or_false] at hx
      rcases hx with rfl | rfl <;> rfl
    · exact ih c hc x hx
    · rw [List.mem_singleton.mp hx]
      rfl

theorem Walk.resource_of_mem_events (d : Document) (resource : String) :
    ∀ x ∈ events d resource, x.resource = resource := by
  intro x hx
  rw [events, List.cons_append, List.mem_cons, List.mem_append, List.mem_singleton] at hx
  rcases hx with rfl | hx | rfl
  · rfl
  · exact resource_of_mem_visit d resource _ x hx
  · rfl

/-- What is told of an element and of those below it. -/
theorem Walk.kind_of_mem_visit (d : Document) (resource : String) (e : Element) :
    ∀ x ∈ visit d resource e, x.kind ∈ [EventKind.element, .traverseDown, .traverseUp] := by
  induction e using Element.children_induction with
  | step e ih =>
    intro x hx
    rw [visit_eq, List.mem_append, List.mem_append, List.mem_flatMap] at hx
    rcases hx with (hx | ⟨c, hc, hx⟩) | hx
    · simp only [entering, List.mem_cons, List.not_mem_nil, or_false] at hx
      rcases hx with rfl | rfl <;> simp [Event.kind]
    · exact ih c hc x hx
    · rw [List.mem_singleton.mp hx]
      simp [leaving, Event.kind]

namespace Cycle
open Routine

variable {σ : Type} {config : CycleConfig} {f : Fetch}

/-- What is read of a fetch: its text and the document of that text. -/
def reading (config : PageConfig) (f : Fetch) : Except Error (String × Document) := do
  let html ← (source config f).2
  let d ← (Document.parse config html).2
  return (html, d)

/-- The events of a cycle in which a text was read that a page shows. -/
def sequence (f : Fetch) (html : String) (page : OpenPage) : List Event :=
  .parseStart f.resource :: .parseEnd f.resource html page :: Walk.events page.document f.resource

theorem resource_of_mem_sequence (f : Fetch) (html : String) (page : OpenPage) :
    ∀ x ∈ sequence f html page, x.resource = f.resource := by
  intro x hx
  rw [sequence, List.mem_cons, List.mem_cons] at hx
  rcases hx with rfl | rfl | hx
  · rfl
  · rfl
  · exact Walk.resource_of_mem_events _ _ x hx

/-! ### Attempts -/

section Attempts
variable {α : Type} {what resource : String} {r : Logged α} {next : α → Routine σ} {deliver : Delivery σ} {h : Hub σ}

theorem attempt_of_ok {a : α} (hr : r.2 = .ok a) : ∃ h', (attempt what resource r next).emissions deliver h =
      (next a).emissions deliver h' ∧ (attempt what resource r next).result deliver h = (next a).result deliver h' := by
  obtain ⟨records, x⟩ := r
  cases hr
  exact ⟨_, rfl, rfl⟩

theorem attempt_of_error {e : Error} (hr : r.2 = .error e) : (attempt what resource r next).emissions deliver h = [] ∧
      (attempt what resource r next).result deliver h = some (.error e) := by
  obtain ⟨records, x⟩ := r
  cases hr
  exact ⟨rfl, rfl⟩

end Attempts

theorem reading_eq_ok {config : PageConfig} {html : String} {d : Document} (hr : reading config f = .ok (html, d)) :
    (source config f).2 = .ok html ∧ (Document.parse config html).2 = .ok d := by
  unfold reading at hr
  cases hs : (source config f).2 with
  | error e => simp [hs, bind, Except.bind] at hr
  | ok text =>
    cases hp : (Document.parse config text).2 with
    | error e => simp [hs, hp, bind, Except.bind] at hr
    | ok page =>
      simp only [hs, hp, bind, Except.bind, pure, Except.pure, Except.ok.injEq, Prod.mk.injEq] at hr
      obtain ⟨rfl, rfl⟩ := hr
      exact ⟨rfl, hp⟩

theorem reading_eq_error {config : PageConfig} {e : Error} (hr : reading config f = .error e) :
    (source config f).2 = .error e ∨
      ∃ html, (source config f).2 = .ok html ∧ (Document.parse config html).2 = .error e := by
  unfold reading at hr
  cases hs : (source config f).2 with
  | error x =>
    simp only [hs, bind, Except.bind, Except.error.injEq] at hr
    exact Or.inl (congrArg _ hr)
  | ok text =>
    cases hp : (Document.parse config text).2 with
    | error x =>
      simp only [hs, hp, bind, Except.bind, Except.error.injEq] at hr
      exact Or.inr ⟨text, rfl, hr ▸ hp⟩
    | ok page => simp [hs, hp, bind, Except.bind, pure, Except.pure] at hr

/-! ### The cycle -/

/-- What a cycle does behind the start of its reading. -/
def readOn (config : CycleConfig) (f : Fetch) : Routine σ :=
  attempt "decode" f.resource (source config.page f) fun html =>
    attempt "parse" f.resource (Document.parse config.page html) fun d =>
      .note (location f).1 fun _ =>
        .openWindow d (location f).2 config.script fun page =>
          .announce (.parseEnd f.resource html page) fun _ => page.document.walk f.resource

theorem read_eq (config : CycleConfig) (f : Fetch) :
    (read config f : Routine σ) = .announce (.parseStart f.resource) fun _ => readOn config f := rfl

section Told
variable (deliver : Delivery σ) (h : Hub σ)

/-- A page that was read is opened in a window, and told of with its walk. -/
theorem tells_readOn {html : String} {d : Document} (hr : reading config.page f = .ok (html, d)) :
    ∃ w, Tells (.parseEnd f.resource html ⟨w, d, (location f).2⟩ :: Walk.events d f.resource)
      ((readOn config f).emissions deliver h) ((readOn config f).result deliver h) := by
  obtain ⟨hs, hp⟩ := reading_eq_ok hr
  obtain ⟨h₁, hown₁, hres₁⟩ := attempt_of_ok hs
  obtain ⟨h₂, hown₂, hres₂⟩ := attempt_of_ok hp
  let h₃ : Hub σ := { h₂ with session := (location f).1.foldl Session.note h₂.session }
  let opened := h₃.session.openWindow d (location f).2 config.script
  refine ⟨opened.1, ?_⟩
  rw [readOn, hown₁, hown₂, hres₁, hres₂]
  exact tells_announceAll deliver [.parseEnd f.resource html ⟨opened.1, d, (location f).2⟩]
    (Walk.events d f.resource) (fun _ => d.walk f.resource) (Walk.tells_walk d f.resource deliver)
    { h₃ with session := opened.2 }

/-- A page that cannot be read is not told of. -/
theorem readOn_of_error {e : Error} (hr : reading config.page f = .error e) :
    (readOn config f).emissions deliver h = [] ∧ (readOn config f).result deliver h = some (.error e) := by
  rcases reading_eq_error hr with hs | ⟨html, hs, hp⟩
  · exact attempt_of_error hs
  · obtain ⟨h', hown, hres⟩ := attempt_of_ok hs
    rw [readOn, hown, hres]
    exact attempt_of_error hp

/-- A cycle whose page is read tells its whole sequence. -/
theorem tells_read {html : String} {d : Document} (hr : reading config.page f = .ok (html, d)) :
    ∃ w, Tells (sequence f html ⟨w, d, (location f).2⟩) ((read config f).emissions deliver h)
      ((read config f).result deliver h) := by
  rw [read_eq]
  rcases announce_cases deliver (.parseStart f.resource) (fun _ => readOn config f) h with
    ⟨h', hown, hres⟩ | ⟨answer, unheard, hown, hres⟩
  · obtain ⟨w, told⟩ := tells_readOn deliver h' hr
    rw [hown, hres]
    exact ⟨w, told.cons _⟩
  · -- Nothing was opened, so any window will do.
    let w := (h.session.openWindow d none config.script).1
    have split : sequence f html ⟨w, d, (location f).2⟩ = [] ++ .parseStart f.resource ::
        .parseEnd f.resource html ⟨w, d, (location f).2⟩ :: Walk.events d f.resource := rfl
    rw [hown, hres]
    exact ⟨w, .stopped split unheard⟩

/-- A cycle whose page cannot be read tells its start alone. -/
theorem read_of_error {e : Error} (hr : reading config.page f = .error e) :
    ((read config f).emissions deliver h = [.heard (.parseStart f.resource)] ∧
        (read config f).result deliver h = some (.error e)) ∨
      ∃ answer, answer ≠ some (.ok ()) ∧ (read config f).emissions deliver h = [⟨.parseStart f.resource, answer⟩] ∧
        (read config f).result deliver h = answer := by
  rw [read_eq]
  rcases announce_cases deliver (.parseStart f.resource) (fun _ => readOn config f) h with ⟨h', hown, hres⟩ | stopped
  · obtain ⟨hnone, herror⟩ := readOn_of_error deliver h' hr
    exact Or.inl ⟨by rw [hown, hnone], by rw [hres, herror]⟩
  · exact Or.inr stopped

/-- All that a cycle tells belongs to the resource that was fetched. -/
theorem resource_of_mem_read {a : Emission} (ha : a ∈ (read config f).emissions deliver h) :
    a.event.resource = f.resource := by
  cases hr : reading config.page f with
  | ok page =>
    obtain ⟨w, told⟩ := tells_read deliver h hr
    exact resource_of_mem_sequence _ _ _ _ (told.events_begin.subset (List.mem_map_of_mem ha))
  | error e =>
    rcases read_of_error deliver h hr with ⟨hone, -⟩ | ⟨answer, -, hone, -⟩ <;>
    · rw [hone, List.mem_singleton] at ha
      rw [ha]
      rfl

theorem handle_of_html (hf : f.type = .html) : (handle config f : Routine σ) = read config f := if_pos hf

theorem handle_of_not_html (hf : f.type ≠ .html) : (handle config f).emissions deliver h = [] ∧
      (handle config f).result deliver h = some (.ok ()) := by
  have same : (handle config f : Routine σ) = .note [ignoredRecord f] fun _ => .ok := if_neg hf
  rw [same]
  exact ⟨rfl, rfl⟩

end Told

/-- The own emissions of a cycle on any hub. What is no markup is left alone. A page that is read is told of by a
first part of the whole sequence; the cycle ends well exactly if all of it was told and heard well, and otherwise
with the answer to its last emission. A page that cannot be decoded or read is told of by its start alone, and the
cycle ends with the answer to it or, if that was good, with the error of the reading. -/
theorem handle_emissions (config : CycleConfig) (f : Fetch) (depth : Nat) (h : Hub σ) :
    let own := (handle config f).emissions (Hub.deliver depth) h
    let answer := (handle config f).result (Hub.deliver depth) h
    (∀ a ∈ own, a.event.resource = f.resource) ∧
    (f.type ≠ .html → own = [] ∧ answer = some (.ok ())) ∧
    (f.type = .html → ∀ html d, reading config.page f = .ok (html, d) →
      ∃ w, own.map (·.event) <+: sequence f html ⟨w, d, (location f).2⟩ ∧
        (answer = some (.ok ()) ↔ own = (sequence f html ⟨w, d, (location f).2⟩).map .heard) ∧
        (answer ≠ some (.ok ()) → ∃ e, own.getLast? = some ⟨e, answer⟩)) ∧
    (f.type = .html → ∀ e, reading config.page f = .error e →
      (own = [.heard (.parseStart f.resource)] ∧ answer = some (.error e)) ∨
        (own = [⟨.parseStart f.resource, answer⟩] ∧ answer ≠ some (.ok ()))) := by
  intro own answer
  by_cases hf : f.type = .html
  · have hown : own = (read config f).emissions (Hub.deliver depth) h := by rw [← handle_of_html hf]
    have hres : answer = (read config f).result (Hub.deliver depth) h := by rw [← handle_of_html hf]
    rw [hown, hres]
    refine ⟨fun a ha => resource_of_mem_read _ h ha, fun hne => absurd hf hne, fun _ html d hr => ?_,
      fun _ e hr => ?_⟩
    · obtain ⟨w, told⟩ := tells_read (Hub.deliver depth) h hr
      exact ⟨w, told.events_begin, told.ended_well_iff, told.last_of_unheard⟩
    · rcases read_of_error (Hub.deliver depth) h hr with ⟨hone, herror⟩ | ⟨answer, unheard, hone, hans⟩
      · exact Or.inl ⟨hone, herror⟩
      · rw [hone, hans]
        exact Or.inr ⟨rfl, unheard⟩
  · obtain ⟨hown, hres⟩ := handle_of_not_html (Hub.deliver depth) h hf
    have none_own : own = [] := hown
    refine ⟨fun a ha => ?_, fun _ => ⟨hown, hres⟩, fun hf' => absurd hf' hf, fun hf' => absurd hf' hf⟩
    rw [none_own] at ha
    cases ha

end Cycle

end Pagewalk
