import Pagewalk.Proofs.Document.Trails
import Pagewalk.Proofs.Page
import Pagewalk.Proofs.Walk.Sequence

/-!
# Which elements a walk meets

A walk follows the child elements, and the elements of a document are all that stand anywhere in its tree. What
tells them apart is the fragment under a template: it is no element, so a walk does not go through it. A walk meets
the elements that stand in no fragment, in document order and each once.
-/

namespace Pagewalk

/-- The node that holds what a template holds. -/
def Node.isFragment : Node → Bool
  | .fragment _ => true
  | _ => false

/-- A fragment stands above the element. -/
def Element.isInFragment (e : Element) : Bool := e.above.any fun s => s.node.isFragment

namespace Walk

variable (d : Document) (resource : String)

/-- The elements that some events enter. -/
def met (es : List Event) : List Element :=
  es.filterMap fun
    | .element _ target => some target.element
    | _ => none

theorem met_append (es fs : List Event) : met (es ++ fs) = met es ++ met fs := List.filterMap_append

theorem met_flatMap (es : List Element) (word : Element → List Event) :
    met (es.flatMap word) = es.flatMap fun e => met (word e) := by
  induction es with
  | nil => rfl
  | cons e es ih => rw [List.flatMap_cons, List.flatMap_cons, met_append, ih]

theorem met_visit (e : Element) :
    met (visit d resource e) = e :: e.children.flatMap fun c => met (visit d resource c) := by
  rw [visit_eq, met_append, met_append, met_flatMap]
  exact List.append_nil _

theorem met_events : met (events d resource) = met (visit d resource d.root) := by
  rw [events, List.cons_append, ← List.singleton_append, met_append, met_append]
  exact List.append_nil _

/-- The elements of a listing that stand in no fragment. -/
def outside (ts : List Trail) : List Element := (ts.filterMap Element.ofTrail?).filter fun e => !e.isInFragment

theorem outside_append (ss ts : List Trail) : outside (ss ++ ts) = outside ss ++ outside ts := by
  rw [outside, List.filterMap_append, List.filter_append]
  rfl

theorem outside_cons_none {t : Trail} (h : Element.ofTrail? t = none) (ts : List Trail) :
    outside (t :: ts) = outside ts := by
  rw [outside, List.filterMap_cons_none h]
  rfl

theorem outside_cons_some {t : Trail} {e : Element} (h : Element.ofTrail? t = some e)
    (clear : e.isInFragment = false) (ts : List Trail) : outside (t :: ts) = e :: outside ts := by
  rw [outside, List.filterMap_cons_some h, List.filter_cons_of_pos (by rw [clear]; rfl)]
  rfl

/-- Nothing that is listed below a fragment is outside of it. -/
theorem outside_eq_nil {above : Trail} (closed : above.any fun s => s.node.isFragment) (place : Nat) (ns : List Node) :
    outside (Node.trailsOfAll above place ns) = [] := by
  rw [outside, List.filter_eq_nil_iff]
  intro e he
  obtain ⟨t, ht, hte⟩ := List.mem_filterMap.mp he
  obtain ⟨below, i, n, -, rfl⟩ := Node.mem_trailsOfAll ht
  have trail := Element.trail_of_ofTrail? hte
  have inside : e.isInFragment = true := by
    cases below with
    | nil =>
      have : e.above = above := (List.cons.inj trail).2
      rw [Element.isInFragment, this]
      exact closed
    | cons s below =>
      have : e.above = below ++ ⟨place + i, n⟩ :: above := (List.cons.inj trail).2
      rw [Element.isInFragment, this, List.any_append, List.any_cons, closed, Bool.or_true, Bool.or_true]
  simp [inside]

mutual

/-- From a node that stands in no fragment a walk meets the listed elements that stand in none. -/
theorem outside_trails {above : Trail} (clear : (above.any fun s => s.node.isFragment) = false) (place : Nat)
    (n : Node) : outside (Node.trails above place n) =
      (Element.ofTrail? (⟨place, n⟩ :: above)).toList.flatMap fun e => met (visit d resource e) := by
  cases n with
  | element data kids =>
    have clear' : ((⟨place, .element data kids⟩ :: above : Trail).any fun s => s.node.isFragment) = false := by
      rw [List.any_cons, clear]
      rfl
    have here : Element.ofTrail? (⟨place, .element data kids⟩ :: above) = some ⟨data, kids, place, above⟩ := rfl
    rw [Node.trails, outside_cons_some here clear, outside_trailsOfAll clear' 0 kids, here, Option.toList_some,
      List.flatMap_singleton, met_visit]
    rfl
  | fragment kids =>
    rw [Node.trails, outside_cons_none rfl, outside_eq_nil rfl]
    rfl
  | text s => rfl
  | comment s => rfl

theorem outside_trailsOfAll {above : Trail} (clear : (above.any fun s => s.node.isFragment) = false) (place : Nat)
    (ns : List Node) : outside (Node.trailsOfAll above place ns) =
      (Element.ofKids above place ns).flatMap fun e => met (visit d resource e) := by
  cases ns with
  | nil => rfl
  | cons n ns =>
    rw [Node.trailsOfAll, outside_append, outside_trails clear place n, outside_trailsOfAll clear (place + 1) ns]
    cases n with
    | element data kids =>
      rw [Element.ofKids_element, List.flatMap_cons, Element.ofTrail?, Option.toList_some, List.flatMap_singleton]
    | fragment kids => rfl
    | text s => rfl
    | comment s => rfl

end

/-- The sequence of a walk enters the elements that stand in no fragment. -/
theorem met_events_eq : met (events d resource) = d.elements.filter fun e => !e.isInFragment := by
  have clear : (([] : Trail).any fun s => s.node.isFragment) = false := rfl
  have all := outside_trails d resource clear 0 d.root.node
  rw [met_events]
  exact (all.trans (List.append_nil _)).symm

theorem filter_outside_eq_iff (es : List Element) :
    (es.filter fun e => !e.isInFragment) = es ↔ ∀ e ∈ es, e.isInFragment = false := by
  simp only [List.filter_eq_self, Bool.not_eq_true']

variable {σ : Type}

/-- Where no emission fails, a walk meets the elements that stand in no fragment, in document order and each once.
So it meets all elements of the document exactly if none of them stands in a fragment. -/
theorem met_walk (depth : Nat) (h : Hub σ)
    (heard : ∀ a ∈ (d.walk resource).emissions (Hub.deliver depth) h, a.answer = some (.ok ())) :
    let told := ((d.walk resource).emissions (Hub.deliver depth) h).map (·.event)
    (met told = d.elements.filter fun e => !e.isInFragment) ∧ ((met told).map Element.key).Nodup ∧
      (met told = d.elements ↔ ∀ e ∈ d.elements, e.isInFragment = false) := by
  intro told
  have whole : told = events d resource := ((tells_walk d resource (Hub.deliver depth) h).all_of_heard heard).1
  rw [whole, met_events_eq, filter_outside_eq_iff]
  refine ⟨rfl, ?_, Iff.rfl⟩
  exact d.nodup_keys.sublist (List.filter_sublist.map _)

/-! ### Hubs without listeners -/

/-- Nobody objects to an event on a hub without listeners. -/
theorem deliver_of_no_listeners {h : Hub σ} (silent : h.bus.listeners = []) (depth : Nat) (e : Event) :
    ∃ h', Hub.deliver (depth + 1) e h = some (.ok (), h') ∧ h'.bus.listeners = [] := by
  have none_hear : h.bus.hearers e = [] := by rw [Bus.hearers, silent, List.filter_nil]
  refine ⟨h.note (Hub.emissionRecord e 0), ?_, silent⟩
  rw [Hub.deliver, none_hear]
  rfl

theorem heard_of_no_listeners {h : Hub σ} (silent : h.bus.listeners = []) (depth : Nat) :
    ∀ a ∈ (d.walk resource).emissions (Hub.deliver (depth + 1)) h, a.answer = some (.ok ()) := by
  rw [walk_eq]
  generalize record resource (entered (events d resource)) = last
  induction events d resource generalizing h with
  | nil => exact fun a ha => absurd ha List.not_mem_nil
  | cons e es ih =>
    obtain ⟨h', hd, silent'⟩ := deliver_of_no_listeners silent depth e
    intro a ha
    rw [Routine.announceAll, Routine.announce, Routine.emissions_emit_some hd, List.mem_cons] at ha
    rcases ha with rfl | ha
    · rfl
    · exact ih silent' a ha

/-- A hub to which nobody listens. -/
def quiet : Hub Unit := { bus := {}, session := {}, memory := () }

/-- A page with a paragraph in a template. -/
def templatePage : Document := .located "<template><p></p></template>"

theorem met_walk_templatePage :
    let own := (templatePage.walk "r").emissions (Hub.deliver 1) quiet
    (∀ a ∈ own, a.answer = some (.ok ())) ∧
      (met (own.map (·.event)) = templatePage.elements.filter fun e => !e.isInFragment) ∧
      (templatePage.elements.filter fun e => !e.isInFragment).map (·.localName) = ["html", "head", "template", "body"] :=
  have heard := heard_of_no_listeners templatePage "r" rfl 0
  ⟨heard, (met_walk templatePage "r" 1 quiet heard).1, by decide +kernel⟩

/-- A walk through a page that was read does not meet the paragraph in its template. -/
theorem walk_misses_template :
    (Document.parse {} "<template><p></p></template>").2 = .ok templatePage ∧
      let own := (templatePage.walk "r").emissions (Hub.deliver 1) quiet
      (∀ a ∈ own, a.answer = some (.ok ())) ∧ met (own.map (·.event)) ≠ templatePage.elements := by
  have heard := heard_of_no_listeners templatePage "r" (h := quiet) rfl 0
  refine ⟨Document.parse_of_lenient (by decide) rfl, heard, fun same => ?_⟩
  rw [((tells_walk templatePage "r" (Hub.deliver 1) quiet).all_of_heard heard).1, met_events_eq,
    filter_outside_eq_iff] at same
  have inside : templatePage.elements.any Element.isInFragment = true := by decide +kernel
  obtain ⟨e, he, hin⟩ := List.any_eq_true.mp inside
  rw [same e he] at hin
  cases hin

end Walk

end Pagewalk
