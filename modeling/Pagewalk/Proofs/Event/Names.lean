import Mathlib.Data.List.Infix
import Pagewalk.Event.Basic

/-!
# Names of events

The name of an event says as much about it as all filters together: two events have one name exactly if no filter tells
them apart. No name of a kind begins another, so the kind is read off the name; what follows it, for elements and
fetches, is what the filters for a tag and for a sort of resource ask for.
-/

namespace Pagewalk

namespace Event

variable {e f : Event}

/-- What follows the name of the kind in the name of an event. -/
def nameSuffix : Event → String
  | fetchEnd f => "::" ++ f.type.name
  | element _ target => "::" ++ target.element.tagName
  | _ => ""

theorem name_eq_append (e : Event) : e.name = e.kind.name ++ e.nameSuffix := by
  cases e with
  | fetchEnd f => exact String.append_assoc
  | element r target => exact String.append_assoc
  | _ => exact String.append_empty.symm

/-- No name of a kind begins another. -/
theorem eq_of_begins {k l : EventKind} (h : k.name.toList <+: l.name.toList) : k = l := by
  revert h
  cases k <;> cases l <;> decide

/-- An event is of the kind with whose name its own begins. -/
theorem kind_eq_of_name {k : EventKind} (suffix : String) (h : e.name = k.name ++ suffix) : e.kind = k := by
  have own : e.kind.name.toList <+: e.name.toList := by
    rw [name_eq_append, String.toList_append]
    exact List.prefix_append ..
  have given : k.name.toList <+: e.name.toList := by
    rw [h, String.toList_append]
    exact List.prefix_append ..
  rcases List.prefix_or_prefix_of_prefix own given with shorter | shorter
  · exact eq_of_begins shorter
  · exact (eq_of_begins shorter).symm

end Event

namespace EventFilter

/-- The filter for a tag goes by the name. -/
theorem admits_element_iff (e : Event) (tag : String) :
    (element tag).admits e = true ↔ e.name = "element::" ++ Text.lower tag := by
  constructor
  · intro admitted
    cases e with
    | element r target =>
      have same : target.element.tagName = Text.lower tag := beq_iff_eq.mp admitted
      rw [← same]
      rfl
    | _ => cases admitted
  · intro named
    have split : "element::" ++ Text.lower tag = "element" ++ ("::" ++ Text.lower tag) :=
      @String.append_assoc "element" "::" _
    have kind : e.kind = .element := Event.kind_eq_of_name _ (named.trans split)
    cases e with
    | element r target =>
      have same : target.element.tagName = Text.lower tag := (String.append_right_inj _).mp named
      exact beq_iff_eq.mpr same
    | _ => cases kind

/-- The filter for a sort of resource goes by the name. -/
theorem admits_fetch_iff (e : Event) (t : ResourceType) :
    (fetch t).admits e = true ↔ e.name = "fetch::end::" ++ t.name := by
  constructor
  · intro admitted
    cases e with
    | fetchEnd f =>
      have same : f.type = t := beq_iff_eq.mp admitted
      rw [← same]
      rfl
    | _ => cases admitted
  · intro named
    have split : "fetch::end::" ++ t.name = "fetch::end" ++ ("::" ++ t.name) :=
      @String.append_assoc "fetch::end" "::" _
    have kind : e.kind = .fetchEnd := Event.kind_eq_of_name _ (named.trans split)
    cases e with
    | fetchEnd f =>
      have same : f.type.name = t.name := (String.append_right_inj _).mp named
      have found : some f.type = some t := by
        rw [← ResourceType.ofName?_name, same, ResourceType.ofName?_name]
      exact beq_iff_eq.mpr (Option.some.inj found)
    | _ => cases kind

/-- Filters do not tell events of one name apart. -/
theorem admits_eq_of_name_eq {e f : Event} (h : e.name = f.name) (filter : EventFilter) :
    filter.admits e = filter.admits f := by
  have kind : e.kind = f.kind := Event.kind_eq_of_name _ (h.trans f.name_eq_append)
  cases filter with
  | all => rfl
  | kind k => exact congrArg (k == ·) kind
  | element tag => rw [Bool.eq_iff_iff, admits_element_iff, admits_element_iff, h]
  | fetch t => rw [Bool.eq_iff_iff, admits_fetch_iff, admits_fetch_iff, h]

end EventFilter

/-- Events that no filter tells apart have one name. -/
theorem Event.name_eq_of_admits_eq {e f : Event} (h : ∀ filter : EventFilter, filter.admits e = filter.admits f) :
    e.name = f.name := by
  have kind : e.kind = f.kind := by
    have heard : (EventFilter.kind e.kind).admits e = true := beq_self_eq_true e.kind
    rw [h] at heard
    exact beq_iff_eq.mp heard
  -- What goes behind the kind is what the filter for it in the first event lets through in the second one.
  cases e with
  | element r target =>
    have heard : (EventFilter.element target.element.localName).admits (.element r target) = true := beq_self_eq_true _
    exact ((EventFilter.admits_element_iff f _).mp (h _ ▸ heard)).symm
  | fetchEnd fetched =>
    have heard : (EventFilter.fetch fetched.type).admits (.fetchEnd fetched) = true := beq_self_eq_true _
    exact ((EventFilter.admits_fetch_iff f _).mp (h _ ▸ heard)).symm
  | _ =>
    cases f with
    | element => cases kind
    | fetchEnd => cases kind
    | _ => exact congrArg EventKind.name kind

/-- Two events have one name exactly if no filter tells them apart; the filter for a tag lets through what is named for
the tag in small letters, and the filter for a sort of resource what is named for the sort. -/
theorem Event.names_follow_filters :
    (∀ e f : Event, e.name = f.name ↔ ∀ filter : EventFilter, filter.admits e = filter.admits f) ∧
    (∀ (e : Event) (tag : String),
      (EventFilter.element tag).admits e = true ↔ e.name = "element::" ++ Text.lower tag) ∧
    ∀ (e : Event) (t : ResourceType), (EventFilter.fetch t).admits e = true ↔ e.name = "fetch::end::" ++ t.name :=
  ⟨fun _ _ => ⟨EventFilter.admits_eq_of_name_eq, name_eq_of_admits_eq⟩, EventFilter.admits_element_iff,
    EventFilter.admits_fetch_iff⟩

end Pagewalk
