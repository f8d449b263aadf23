import Pagewalk.Proofs.Bodies
import Pagewalk.Proofs.Command.Listeners

/-!
# Reports

A report is found from the page: its output is the listing of one cycle, then one line for each script. The listing
shows the tree of the elements that the walk met. The scripts are evaluated where the page is read, and the status
tells whether all went well; but a fetch that is no markup is left alone, its scripts with it, and that is reported
as going well too.
-/

namespace Pagewalk

/-! ### What a walk reaches -/

namespace Walk
variable (d : Document) (resource : String)

/-- All that is told of an element and of those below it is about elements that were met. -/
theorem target_of_mem_visit (e : Element) : ∀ x ∈ visit d resource e,
    ∃ p, x.target? = some p ∧ p.element ∈ met (visit d resource e) := by
  induction e using Element.children_induction with
  | step e ih =>
    intro x hx
    rw [met_visit]
    rw [visit_eq, List.mem_append, List.mem_append, List.mem_flatMap] at hx
    rcases hx with (hx | ⟨c, hc, hx⟩) | hx
    · simp only [entering, List.mem_cons, List.not_mem_nil, or_false] at hx
      rcases hx with rfl | rfl <;> exact ⟨_, rfl, List.mem_cons_self ..⟩
    · obtain ⟨p, told, below⟩ := ih c hc x hx
      exact ⟨p, told, List.mem_cons_of_mem _ (List.mem_flatMap.mpr ⟨c, hc, below⟩)⟩
    · obtain rfl := List.mem_singleton.mp hx
      exact ⟨_, rfl, List.mem_cons_self ..⟩

/-- The elements above one that was met were met too, from where the walk began. -/
theorem ancestors_of_mem_met (e : Element) : ∀ x ∈ met (visit d resource e), ∀ y ∈ x.ancestors,
    y ∈ met (visit d resource e) ∨ y ∈ e.ancestors := by
  induction e using Element.children_induction with
  | step e ih =>
    intro x hx y hy
    rw [met_visit] at hx ⊢
    rcases List.mem_cons.mp hx with rfl | hx
    · exact .inr hy
    · obtain ⟨c, hc, hx⟩ := List.mem_flatMap.mp hx
      rcases ih c hc x hx y hy with below | above
      · exact .inl (List.mem_cons_of_mem _ (List.mem_flatMap.mpr ⟨c, hc, below⟩))
      · rw [Element.ancestors_of_mem_children hc] at above
        rcases List.mem_cons.mp above with rfl | above
        · exact .inl (List.mem_cons_self ..)
        · exact .inr above

/-- Nothing is above the root, so all elements above one that a whole walk tells of were met. -/
theorem reached_of_mem_events {x : Event} {p : PageElement} (hx : x ∈ events d resource) (hp : x.target? = some p) :
    p.element ∈ met (events d resource) ∧ ∀ y ∈ p.element.ancestors, y ∈ met (events d resource) := by
  rw [met_events]
  rw [events, List.cons_append, List.mem_cons, List.mem_append, List.mem_singleton] at hx
  rcases hx with rfl | hx | rfl
  · cases hp
  · obtain ⟨p', told, here⟩ := target_of_mem_visit d resource _ x hx
    obtain rfl := Option.some.inj (told.symm.trans hp)
    exact ⟨here, fun y hy => (ancestors_of_mem_met d resource _ _ here y hy).resolve_right List.not_mem_nil⟩
  · cases hp

end Walk

namespace Command
open Listing

/-! ### From the run to the report -/

/-- The lines of some events. -/
def linesOf (es : List Event) : List String := (({} : Listing).after es).lines.toList

section Reported
variable {a : Arguments} {threshold : Log.Threshold} {i : Input} {h : Hub Memory} {es : List Event}
  {evaluations : List Evaluation}

theorem ofInput_of_ok (ran : start.perform (routine a (fetchOf a i)) = (.ok (), h))
    (memory : h.memory = remembering es evaluations) :
    (Report.ofInput a threshold i).status = (if evaluations.all succeeded then 0 else 1) ∧
      (Report.ofInput a threshold i).output = linesOf es ++ evaluations.map evaluationLine := by
  unfold Report.ofInput
  simp only [ran]
  rw [memory]
  exact ⟨rfl, rfl⟩

theorem ofInput_of_error {e : Error} (ran : start.perform (routine a (fetchOf a i)) = (.error e, h))
    (memory : h.memory = remembering es evaluations) :
    (Report.ofInput a threshold i).status = 1 ∧ (Report.ofInput a threshold i).output = linesOf es := by
  unfold Report.ofInput
  simp only [ran, true_and]
  rw [memory]
  rfl

end Reported

/-- The input is announced as a page of markup. -/
def Arguments.IsMarkup (a : Arguments) : Prop := ResourceType.ofMediaType a.mediaType = .html

/-- What the scripts answer in the page that the input was read as. -/
def answersIn (a : Arguments) (i : Input) (d : Document) : List Evaluation :=
  d.answers (Cycle.location (fetchOf a i)).2 {} a.scripts

/-- The events of the cycle in which the input was read. -/
def cycleOf (a : Arguments) (i : Input) (html : String) (d : Document) : List Event :=
  .fetchEnd (fetchOf a i) :: Cycle.sequence (fetchOf a i) html ⟨0, d, (Cycle.location (fetchOf a i)).2⟩

section Cases
variable (a : Arguments) (threshold : Log.Threshold) (i : Input)

theorem ofInput_of_other (other : ¬a.IsMarkup) : (Report.ofInput a threshold i).status = 0 ∧
    (Report.ofInput a threshold i).output = linesOf [.fetchEnd (fetchOf a i)] := by
  obtain ⟨h, ran, memory⟩ := perform_of_other a (fetchOf a i) other
  obtain ⟨status, output⟩ := ofInput_of_ok ran memory
  exact ⟨status, output.trans (List.append_nil _)⟩

theorem ofInput_of_unread (markup : a.IsMarkup) {e : Error} (hr : Cycle.reading a.page (fetchOf a i) = .error e) :
    (Report.ofInput a threshold i).status = 1 := by
  obtain ⟨h, ran, memory⟩ := perform_of_error a (fetchOf a i) markup hr
  exact (ofInput_of_error ran memory).1

theorem ofInput_of_read (markup : a.IsMarkup) {html : String} {d : Document}
    (hr : Cycle.reading a.page (fetchOf a i) = .ok (html, d)) :
    (Report.ofInput a threshold i).status = (if (answersIn a i d).all succeeded then 0 else 1) ∧
      (Report.ofInput a threshold i).output = linesOf (cycleOf a i html d) ++ (answersIn a i d).map evaluationLine := by
  obtain ⟨h, ran, memory⟩ := perform_of_read a (fetchOf a i) markup hr
  exact ofInput_of_ok ran memory

end Cases

/-! ### Lines -/

/-- A line begins as the lines about scripts do. -/
def isOfScript (line : String) : Bool := "eval ".toList.isPrefixOf line.toList

theorem exists_toList_evaluationLine (e : Evaluation) :
    ∃ rest, (evaluationLine e).toList = 'e' :: 'v' :: 'a' :: 'l' :: ' ' :: rest := by
  have front : "eval ".toList = ['e', 'v', 'a', 'l', ' '] := by decide
  obtain ⟨s, v | x⟩ := e <;>
  · simp only [evaluationLine, String.toList_append, List.append_assoc, front, List.cons_append, List.nil_append]
    exact ⟨_, rfl⟩

theorem isOfScript_evaluationLine (e : Evaluation) : isOfScript (evaluationLine e) = true := by
  obtain ⟨rest, text⟩ := exists_toList_evaluationLine e
  rw [isOfScript, text]
  exact List.isPrefixOf_iff_prefix.mpr ⟨rest, rfl⟩

/-- A line about a script is about no element. -/
theorem row?_evaluationLine (e : Evaluation) : row? (evaluationLine e) = none := by
  obtain ⟨rest, text⟩ := exists_toList_evaluationLine e
  have front : "element::".toList = 'e' :: 'l' :: "ement::".toList := by decide
  have line : evaluationLine e = indent 0 ++ String.ofList ('e' :: 'v' :: 'a' :: 'l' :: ' ' :: rest) := by
    rw [← text, String.ofList_toList]
    exact (String.empty_append ..).symm
  have no : isOfElement ('e' :: 'v' :: 'a' :: 'l' :: ' ' :: rest) = false := by
    rw [isOfElement, front, List.isPrefixOf_cons_cons, List.isPrefixOf_cons_cons]
    rfl
  rw [line, row?_of_not_blank (by decide), no]
  rfl

/-- What is said of an event does not begin as the lines about scripts do. -/
theorem entry_not_ofScript (e : Event) : "eval ".toList.isPrefixOf (entry e).toList = false := by
  have front : "eval ".toList = ['e', 'v', 'a', 'l', ' '] := by decide
  by_cases h : e.kind = .element
  · obtain ⟨r, p, rfl⟩ := exists_of_kind_element h
    have element : "element::".toList = 'e' :: 'l' :: "ement::".toList := by decide
    have text : (entry (.element r p)).toList = _ := toList_caption p
    rw [text, element, front]
    rfl
  · obtain ⟨rest, text⟩ := toList_entry h
    obtain ⟨c, cs, name, -, other⟩ := exists_toList_name e.kind
    rw [text, name, front, List.cons_append, List.isPrefixOf_cons_cons, beq_false_of_ne (other h).symm, Bool.false_and]

theorem line_not_ofScript (depth : Nat) (e : Event) : isOfScript (indent depth ++ entry e) = false := by
  have text : (indent depth ++ entry e).toList = List.replicate (2 * depth) ' ' ++ (entry e).toList := by
    rw [String.toList_append, indent, String.toList_ofList]
  rw [isOfScript, text]
  cases depth with
  | zero => exact entry_not_ofScript e
  | succ depth =>
    have front : "eval ".toList = ['e', 'v', 'a', 'l', ' '] := by decide
    rw [Nat.mul_succ, List.replicate_succ, front]
    rfl

/-- Every line of a listing is the line of an event at some depth. -/
theorem mem_lines_after {l : Listing} {es : List Event} {line : String} (h : line ∈ (l.after es).lines.toList) :
    line ∈ l.lines.toList ∨ ∃ depth e, line = indent depth ++ entry e := by
  induction es generalizing l with
  | nil => exact .inl h
  | cons e es ih =>
    rcases ih h with old | new
    · simp only [Listing.add, Array.toList_push, List.mem_append, List.mem_singleton] at old
      exact old.imp_right fun line => ⟨_, _, line⟩
    · exact .inr new

/-- Behind a listing exactly the lines about scripts begin as they do. -/
theorem filter_isOfScript (es : List Event) (evaluations : List Evaluation) :
    (linesOf es ++ evaluations.map evaluationLine).filter isOfScript = evaluations.map evaluationLine := by
  have listing : (linesOf es).filter isOfScript = [] := by
    refine List.filter_eq_nil_iff.mpr fun line hline => ?_
    rcases mem_lines_after hline with no | ⟨depth, e, rfl⟩
    · cases no
    · rw [line_not_ofScript]
      exact Bool.false_ne_true
  have scripts : (evaluations.map evaluationLine).filter isOfScript = evaluations.map evaluationLine := by
    refine List.filter_eq_self.mpr fun line hline => ?_
    obtain ⟨e, -, rfl⟩ := List.mem_map.mp hline
    exact isOfScript_evaluationLine e
  rw [List.filter_append, listing, scripts, List.nil_append]

section Cycled
variable (a : Arguments) (i : Input) (html : String) (d : Document)

theorem leads_cycleOf : Leads 0 (cycleOf a i html d) 0 := leads_cycle ..

theorem linesOf_cycleOf : linesOf (cycleOf a i html d) = (cycleOf a i html d).map shown := by
  rw [linesOf, (leads_cycleOf a i html d).after_eq rfl]
  simp

theorem met_cycleOf :
    Walk.met (cycleOf a i html d) = Walk.met (Walk.events d (fetchOf a i).resource) := rfl

/-- What a cycle tells of an element is told by its walk. -/
theorem reached_of_mem_cycleOf {e : Event} {p : PageElement} (he : e ∈ cycleOf a i html d) (hp : e.target? = some p) :
    p.element ∈ Walk.met (cycleOf a i html d) ∧ ∀ x ∈ p.element.ancestors, x ∈ Walk.met (cycleOf a i html d) := by
  rw [met_cycleOf]
  simp only [cycleOf, Cycle.sequence, List.mem_cons] at he
  rcases he with rfl | rfl | rfl | he
  · cases hp
  · cases hp
  · cases hp
  · exact Walk.reached_of_mem_events d _ he hp

end Cycled

/-! ### The listing of a cycle -/

/-- In the output of a cycle that was read, the line of each event stands at its place, indented by two blanks for
each element above the one that it tells of. That element was met by the walk, and so were those above it. Before each
event the depth is the number of those above, and one more before a step up, which so never finds it at zero; it is
zero at the end of the walk. From the lines alone the tree of the elements that the walk met is read back, each with
what is said of it; and where tag names have no blanks, that is its tag name with the line and column of its tag. -/
theorem listing_of_cycle (a : Arguments) (threshold : Log.Threshold) (i : Input) {html : String} {d : Document}
    (markup : a.IsMarkup) (read : Cycle.reading a.page (fetchOf a i) = .ok (html, d)) :
    let events := cycleOf a i html d
    let output := (Report.ofInput a threshold i).output
    (∀ (n : Nat) (e : Event), events[n]? = some e → output[n]? = some (indent (level e) ++ entry e)) ∧
    (∀ e ∈ events, ∀ p, e.target? = some p → level e = p.element.ancestors.length ∧
      p.element ∈ Walk.met events ∧ ∀ x ∈ p.element.ancestors, x ∈ Walk.met events) ∧
    (∀ r p, entry (.element r p) = "element::" ++ p.element.tagName ++ whereabouts p) ∧
    (∀ before e after, events = before ++ e :: after →
      ((({} : Listing).after before).depth = if e.kind = .traverseUp then level e + 1 else level e) ∧
        (e.kind = .traverseEnd → (({} : Listing).after before).depth = 0)) ∧
    readOutline output = some (outline d d.root) ∧
    ∀ p q : PageElement, ' ' ∉ p.element.tagName.toList → ' ' ∉ q.element.tagName.toList →
      (caption p = caption q ↔ p.element.tagName = q.element.tagName ∧
        (p.location?.map fun l => (l.line, l.column)) = q.location?.map fun l => (l.line, l.column)) := by
  intro events output
  have lines : output = events.map shown ++ (answersIn a i d).map evaluationLine := by
    rw [← linesOf_cycleOf]
    exact (ofInput_of_read a threshold i markup read).2
  -- The lines of scripts come after those of the events, so they have other places and no depth.
  refine ⟨fun n e he => ?_, fun e he p hp => ⟨?_, reached_of_mem_cycleOf a i html d he hp⟩, fun r p => caption_eq p,
    fun before e after split => ?_, ?_, fun p q => caption_eq_iff⟩
  · have short : n < (events.map shown).length := by
      rw [List.length_map]
      exact (List.getElem?_eq_some_iff.mp he).1
    rw [lines, List.getElem?_append_left short, List.getElem?_map, he]
    rfl
  · rw [level, hp]
    rfl
  · have leads := leads_cycleOf a i html d
    rw [show cycleOf a i html d = before ++ e :: after from split] at leads
    have depth : (({} : Listing).after before).depth = if e.kind = .traverseUp then level e + 1 else level e :=
      leads.depth_eq rfl
    refine ⟨depth, fun last => ?_⟩
    cases e with
    | traverseEnd r => exact depth
    | _ => cases last
  · rw [lines]
    refine readOutline_cycle _ _ _ fun line hline => ?_
    obtain ⟨e, -, rfl⟩ := List.mem_map.mp hline
    exact row?_evaluationLine e

/-- A page with one paragraph. -/
def paragraph : Input := ⟨[0x3C, 0x70, 0x3E], none⟩

/-- A command line without scripts for it. -/
def plainRun : Arguments := ⟨"page.html", none, none, "text/html", [], false, none⟩

theorem reading_paragraph : plainRun.IsMarkup ∧
    Cycle.reading plainRun.page (fetchOf plainRun paragraph) = .ok ("<p>", .located "<p>") := by
  have markup : ResourceType.ofMediaType "text/html" = .html := by decide +kernel
  have decoded : (Charset.decodeBody [0x3C, 0x70, 0x3E] "text/html" none false).2 = .ok "<p>" := by decide +kernel
  have source : (Cycle.source plainRun.page (fetchOf plainRun paragraph)).2 = .ok "<p>" := by
    rw [Cycle.source_of_bytes rfl rfl (by decide)]
    exact decoded
  have page : (Document.parse plainRun.page "<p>").2 = .ok (.located "<p>") := Document.parse_of_lenient (by decide) rfl
  refine ⟨markup, ?_⟩
  rw [Cycle.reading, source]
  simp only [bind, Except.bind, page]
  rfl

theorem listing_of_cycle_paragraph : plainRun.IsMarkup ∧
    Cycle.reading plainRun.page (fetchOf plainRun paragraph) = .ok ("<p>", .located "<p>") ∧
      readOutline (Report.ofInput plainRun none paragraph).output =
        some (outline (.located "<p>") (Document.located "<p>").root) :=
  have ⟨markup, read⟩ := reading_paragraph
  ⟨markup, read, (listing_of_cycle plainRun none paragraph markup read).2.2.2.2.1⟩

/-! ### The answers of scripts -/

/-- The output answers every script: behind the lines of events it has one line for each script, in their order, and
no others that begin as such lines do; each script was evaluated without an error, and if there are any, they were
evaluated in the page that was read. -/
def Answered (a : Arguments) (i : Input) (output : List String) : Prop :=
  ∃ es evaluations, output = linesOf es ++ evaluations.map evaluationLine ∧
    output.filter isOfScript = evaluations.map evaluationLine ∧ evaluations.map Prod.fst = a.scripts ∧
    (∀ e ∈ evaluations, succeeded e = true) ∧
    (a.scripts ≠ [] → ∃ html d, Cycle.reading a.page (fetchOf a i) = .ok (html, d) ∧ evaluations = answersIn a i d)

section Answers
variable {words : List String} {setting : Option String} {open? : String → Except String Input} {a : Arguments}
  {threshold : Log.Threshold} {i : Input}

/-- What is no markup leaves scripts without an answer. -/
theorem not_answered_of_other (other : ¬a.IsMarkup) (scripts : a.scripts ≠ []) :
    ¬Answered a i (Report.ofInput a threshold i).output := by
  rintro ⟨es, evaluations, -, lines, same, -, -⟩
  have none_there : (Report.ofInput a threshold i).output.filter isOfScript = [] := by
    have output := (ofInput_of_other a threshold i other).2
    rw [← List.append_nil (linesOf _)] at output
    rw [output]
    exact filter_isOfScript _ []
  have empty : evaluations = [] := List.map_eq_nil_iff.mp (lines.symm.trans none_there)
  rw [empty] at same
  exact scripts same.symm

/-- Of a page that is read with status zero every script is answered. -/
theorem answered_of_markup (markup : a.IsMarkup) (well : (Report.ofInput a threshold i).status = 0) :
    Answered a i (Report.ofInput a threshold i).output := by
  cases hr : Cycle.reading a.page (fetchOf a i) with
  | error e => cases (ofInput_of_unread a threshold i markup hr).symm.trans well
  | ok page =>
    obtain ⟨html, d⟩ := page
    obtain ⟨status, output⟩ := ofInput_of_read a threshold i markup hr
    rw [well] at status
    refine ⟨cycleOf a i html d, answersIn a i d, output, ?_, Session.map_fst_answers .., fun e he => ?_,
      fun _ => ⟨html, d, hr, rfl⟩⟩
    · rw [output]
      exact filter_isOfScript _ _
    · by_contra failed
      have some_failed : ¬(answersIn a i d).all succeeded = true := fun all => failed (List.all_eq_true.mp all e he)
      rw [if_neg some_failed] at status
      cases status

theorem answered_of_no_scripts (other : ¬a.IsMarkup) (scripts : a.scripts = []) :
    Answered a i (Report.ofInput a threshold i).output := by
  have output := (ofInput_of_other a threshold i other).2
  refine ⟨[.fetchEnd (fetchOf a i)], [], output.trans (List.append_nil _).symm, ?_, scripts.symm,
    List.forall_mem_nil _, fun no => absurd scripts no⟩
  rw [output, ← List.append_nil (linesOf _)]
  exact filter_isOfScript _ []

/-- A report on an input that was opened. -/
theorem respond_of_open (setting : Option String) (open? : String → Except String Input)
    (run : Request.ofArguments words = .ok (.run a)) (opened : open? a.input = .ok i) :
    ∃ threshold, (respond words setting open?).status = (Report.ofInput a threshold i).status ∧
      (respond words setting open?).output = (Report.ofInput a threshold i).output := by
  refine ⟨(chooseThreshold a setting).1, ?_⟩
  unfold respond
  simp only [run, opened, and_self]

theorem respond_of_not_open {cause : String} (run : Request.ofArguments words = .ok (.run a))
    (closed : open? a.input = .error cause) : (respond words setting open?).status = 1 := by
  unfold respond
  simp only [run, closed]

theorem status_eq_zero_iff : (Report.ofInput a threshold i).status = 0 ↔ (a.IsMarkup →
    ∃ html d, Cycle.reading a.page (fetchOf a i) = .ok (html, d) ∧ ∀ e ∈ answersIn a i d, succeeded e = true) := by
  by_cases markup : a.IsMarkup
  · cases hr : Cycle.reading a.page (fetchOf a i) with
    | error e =>
      rw [ofInput_of_unread a threshold i markup hr]
      refine iff_of_false (by decide) fun all => ?_
      obtain ⟨html, d, no, -⟩ := all markup
      cases no
    | ok page =>
      obtain ⟨html, d⟩ := page
      rw [(ofInput_of_read a threshold i markup hr).1]
      constructor
      · intro well
        refine fun _ => ⟨html, d, rfl, List.all_eq_true.mp ?_⟩
        by_contra failed
        rw [if_neg failed] at well
        cases well
      · intro all
        obtain ⟨html', d', same, well⟩ := all markup
        cases same
        rw [if_pos (List.all_eq_true.mpr well)]
  · exact iff_of_true (ofInput_of_other a threshold i markup).1 fun no => absurd no markup

theorem answered_iff (well : (Report.ofInput a threshold i).status = 0) :
    Answered a i (Report.ofInput a threshold i).output ↔ a.IsMarkup ∨ a.scripts = [] := by
  by_cases markup : a.IsMarkup
  · exact iff_of_true (answered_of_markup markup well) (.inl markup)
  · rw [or_iff_right markup]
    exact ⟨fun answered => by_contra fun scripts => not_answered_of_other markup scripts answered,
      answered_of_no_scripts markup⟩

/-- The status of a report is zero exactly if the input could be opened and, where it is a page of markup, was read
and all scripts went well in it. With status zero every script was answered exactly if the input is a page of markup
or there were no scripts: anything else is left alone, with the line of its fetch as the only output. -/
theorem respond_answers_iff (setting : Option String) (open? : String → Except String Input)
    (run : Request.ofArguments words = .ok (.run a)) :
    ((respond words setting open?).status = 0 ↔ ∃ i, open? a.input = .ok i ∧ (a.IsMarkup →
      ∃ html d, Cycle.reading a.page (fetchOf a i) = .ok (html, d) ∧ ∀ e ∈ answersIn a i d, succeeded e = true)) ∧
    (∀ i, open? a.input = .ok i →
      ((respond words setting open?).status = 0 →
        (Answered a i (respond words setting open?).output ↔ a.IsMarkup ∨ a.scripts = [])) ∧
      (¬a.IsMarkup → (respond words setting open?).status = 0 ∧
        (respond words setting open?).output = linesOf [.fetchEnd (fetchOf a i)])) := by
  constructor
  · cases opened : open? a.input with
    | error cause =>
      rw [respond_of_not_open run opened]
      exact iff_of_false (by decide) fun ⟨i, no, _⟩ => by cases no
    | ok i =>
      obtain ⟨threshold, status, -⟩ := respond_of_open setting open? run opened
      rw [status, status_eq_zero_iff]
      exact ⟨fun all => ⟨i, rfl, all⟩, fun ⟨i', same, all⟩ => by cases same; exact all⟩
  · intro i opened
    obtain ⟨threshold, status, output⟩ := respond_of_open setting open? run opened
    rw [status, output]
    exact ⟨answered_iff, ofInput_of_other a threshold i⟩

/-- A page of markup without a script, which goes well, and with one. -/
theorem respond_answers_iff_paragraph :
    Request.ofArguments ["page.html"] = .ok (.run plainRun) ∧
      (respond ["page.html"] none fun _ => .ok paragraph).status = 0 ∧
      Answered plainRun paragraph (respond ["page.html"] none fun _ => .ok paragraph).output ∧
      Request.ofArguments ["page.html", "--eval", "1"] = .ok (.run { plainRun with scripts := ["1"] }) ∧
      ((respond ["page.html", "--eval", "1"] none fun _ => .ok paragraph).status = 0 →
        Answered { plainRun with scripts := ["1"] } paragraph
          (respond ["page.html", "--eval", "1"] none fun _ => .ok paragraph).output) := by
  obtain ⟨markup, read⟩ := reading_paragraph
  have plain : Request.ofArguments ["page.html"] = .ok (.run plainRun) := by decide +kernel
  have run : Request.ofArguments ["page.html", "--eval", "1"] = .ok (.run { plainRun with scripts := ["1"] }) := by
    decide +kernel
  have well : (respond ["page.html"] none fun _ => .ok paragraph).status = 0 :=
    (respond_answers_iff none (fun _ => .ok paragraph) plain).1.mpr
      ⟨paragraph, rfl, fun _ => ⟨"<p>", .located "<p>", read, List.forall_mem_nil _⟩⟩
  exact ⟨plain, well,
    (((respond_answers_iff none (fun _ => .ok paragraph) plain).2 _ rfl).1 well).mpr (.inl markup), run,
    fun well' => (((respond_answers_iff none (fun _ => .ok paragraph) run).2 _ rfl).1 well').mpr (.inl markup)⟩

/-- A command line that evaluates a script in what is announced as plain text: all went well, it is said, but the
script has no answer. -/
theorem respond_misses_answer :
    Request.ofArguments ["page.html", "--media-type", "text/plain", "--eval", "1"] =
        .ok (.run { plainRun with mediaType := "text/plain", scripts := ["1"] }) ∧
      (respond ["page.html", "--media-type", "text/plain", "--eval", "1"] none fun _ => .ok paragraph).status = 0 ∧
      ¬Answered { plainRun with mediaType := "text/plain", scripts := ["1"] } paragraph
        (respond ["page.html", "--media-type", "text/plain", "--eval", "1"] none fun _ => .ok paragraph).output := by
  have run : Request.ofArguments ["page.html", "--media-type", "text/plain", "--eval", "1"] =
      .ok (.run { plainRun with mediaType := "text/plain", scripts := ["1"] }) := by decide +kernel
  have other : ¬Arguments.IsMarkup { plainRun with mediaType := "text/plain", scripts := ["1"] } := by
    change ¬ResourceType.ofMediaType "text/plain" = .html
    decide +kernel
  obtain ⟨threshold, status, output⟩ := respond_of_open none (fun _ => .ok paragraph) run rfl
  rw [status, output]
  exact ⟨run, (ofInput_of_other _ threshold paragraph other).1, not_answered_of_other other (by decide)⟩

end Answers

end Command

end Pagewalk
