import Pagewalk.Proofs.Script.Ancestry
import Pagewalk.Proofs.Script.Selections

/-!
# Loops of built-in functions

Some functions that scripts call go around in a loop, which counts like the loops of the script itself: where it goes around
more often than a loop may, the script is broken off. The search for the closest element that a selector matches is one of
them. It comes by the element and those above it, from parent to parent, up to the first that the selector matches.
-/

namespace Pagewalk

/-! ### Chains of parents -/

namespace Element

variable {d : Document} {e f : Element}

/-- An element and those above it, from parent to parent. -/
def chain (e : Element) : List Element := Trail.line e.trail

theorem chain_of_parent (h : e.parent? = some f) : e.chain = e :: f.chain := by
  rw [chain, line_trail, chain, show f.trail = e.above from trail_of_ofTrail? h]

theorem chain_of_top (h : e.parent? = none) : e.chain = [e] := by
  rw [chain, line_trail, Trail.line_eq_nil h]

theorem length_le_of_mem_line {t : Trail} (h : e ∈ Trail.line t) : e.trail.length ≤ t.length := by
  induction t with
  | nil => cases h
  | cons s above ih =>
    rw [Trail.line] at h
    split at h
    next f found =>
      rcases List.mem_cons.mp h with rfl | h
      · rw [trail_of_ofTrail? found]
      · exact Nat.le_succ_of_le (ih h)
    next => cases h

/-- No element stands above itself. -/
theorem nodup_line (t : Trail) : (Trail.line t).Nodup := by
  induction t with
  | nil => exact .nil
  | cons s above ih =>
    rw [Trail.line]
    split
    next e found =>
      refine List.nodup_cons.mpr ⟨fun above => ?_, ih⟩
      have shorter := length_le_of_mem_line above
      rw [trail_of_ofTrail? found, List.length_cons] at shorter
      omega
    next => exact .nil

end Element

namespace Script

open Text

variable {α β : Type} {c : Context} {w w' : World} {m : Nat}

/-! ### Loops that count -/

/-- A step is broken off because a loop goes around too often. -/
def Overruns (step : Run α) (c : Context) (w : World) : Prop :=
  ∃ w', step c w = .error (.limit ("Maximum loop iteration limit " ++ toString c.config.loopLimit ++ " exceeded")) w'

theorem Overruns.bind {step : Run α} (h : Overruns step c w) (next : α → Run β) : Overruns (step >>= next) c w := by
  obtain ⟨w', eq⟩ := h
  exact ⟨w', bind_of_error eq next⟩

theorem Overruns.after {step : Run α} {next : α → Run β} {a : α} (h : step c w = .ok a w') (hn : Overruns (next a) c w') :
    Overruns (step >>= next) c w := by
  obtain ⟨w'', eq⟩ := hn
  exact ⟨w'', (bind_of_ok h next).trans eq⟩

theorem Overruns.of_run_eq {step step' : Run α} (eq : step c w = step' c w) (h : Overruns step' c w) : Overruns step c w := by
  obtain ⟨w', eq'⟩ := h
  exact ⟨w', eq.trans eq'⟩

theorem Overruns.asCall {step : Run α} {arguments registers : Nat} (room : c.Room 1 (2 + arguments + 1))
    (h : Overruns step (c.inner (2 + arguments + registers)) w.framed) : Overruns (asCall arguments registers step) c w := by
  obtain ⟨w', eq⟩ := h
  have framed := inFrame_act (l := .own) (c := c) (w := w) step (2 + arguments + registers)
    Finding.allowsFrames_own
  rw [eq] at framed
  exact ⟨_, (bind_of_ok (checkLimits_run room) _).trans framed⟩

theorem countIteration_overruns (h : c.config.loopLimit < w.realm.iterations) : Overruns countIteration c w := by
  refine ⟨w, ?_⟩
  rw [countIteration, bind_of_ok read_run, bind_of_ok realm_run, if_pos h]
  rfl

/-- A step in which a loop goes around so often gives an answer, or is broken off if that is too often. -/
structure YieldsAfter (m : Nat) (step : Run α) (c : Context) (w : World) (P : α → Array Obj → Prop) : Prop where
  within : m ≤ c.config.loopLimit + 1 → Yields step c w P
  beyond : c.config.loopLimit + 1 < m → Overruns step c w

namespace YieldsAfter

variable {P Q : α → Array Obj → Prop} {step : Run α}

theorem of_yields (few : m ≤ c.config.loopLimit + 1) (h : Yields step c w P) : YieldsAfter m step c w P :=
  ⟨fun _ => h, fun more => absurd more (Nat.not_lt.mpr few)⟩

theorem of_run_eq {step' : Run α} (eq : step c w = step' c w) (h : YieldsAfter m step' c w P) : YieldsAfter m step c w P :=
  ⟨fun few => .of_run_eq eq (h.within few), fun more => .of_run_eq eq (h.beyond more)⟩

theorem mono (h : YieldsAfter m step c w P) (imp : ∀ a os, P a os → Q a os) : YieldsAfter m step c w Q :=
  ⟨fun few => (h.within few).mono imp, h.beyond⟩

theorem after {next : α → Run β} {Q : β → Array Obj → Prop} {a : α} (h : step c w = .ok a w')
    (l : w.realm.Later w'.realm) (hn : YieldsAfter m (next a) c w' Q) : YieldsAfter m (step >>= next) c w Q :=
  ⟨fun few => .after h l (hn.within few), fun more => .after h (hn.beyond more)⟩

theorem map {f : α → β} {Q : β → Array Obj → Prop} (h : YieldsAfter m step c w P) (imp : ∀ a os, P a os → Q (f a) os) :
    YieldsAfter m (do return f (← step)) c w Q :=
  ⟨fun few => (h.within few).bind fun _ _ _ hP => .of_ok rfl (imp _ _ hP), fun more => (h.beyond more).bind _⟩

theorem asCall {arguments registers : Nat} (room : c.Room 1 (2 + arguments + 1))
    (h : YieldsAfter m step (c.inner (2 + arguments + registers)) w.framed P) :
    YieldsAfter m (asCall arguments registers step) c w P :=
  ⟨fun few => .asCall room (h.within few), fun more => .asCall room (h.beyond more)⟩

/-- One more iteration is counted, unless so many were. -/
theorem countIteration {next : Unit → Run β} {Q : β → Array Obj → Prop} (more : w.realm.iterations < m)
    (hn : w.realm.iterations ≤ c.config.loopLimit →
      YieldsAfter m (next ()) c { w with realm := { w.realm with iterations := w.realm.iterations + 1 } } Q) :
    YieldsAfter m (countIteration >>= next) c w Q := by
  by_cases few : w.realm.iterations ≤ c.config.loopLimit
  · exact .after (countIteration_run few) ⟨Nat.le_refl _, fun _ _ => .inl rfl, rfl, rfl⟩ (hn few)
  · refine ⟨fun within => absurd within (by omega), fun _ => ?_⟩
    exact (countIteration_overruns (Nat.lt_of_not_le few)).bind _

end YieldsAfter

/-! ### The closest element -/

section Loops

variable {d : Document} {n i fuel : Nat} {s : CodeUnits} {e : Element} {selector : Selector} {v : Value}
  (page : c.page = d.numbered) (small : d.nodes.length ≤ 2 ^ 53)

include page small

omit small in
/-- An element says of itself that it is one, and counts no iteration. -/
theorem isElement_run {r : Ref} (W : w.realm.Whole) (room : c.Room 2 5) (h : IsKept w.realm.objects r i)
    (he : d.numbered.element i = .ok e) (few : i < 2 ^ 53) :
    ∃ w', (kernel (n + 2)).isElement (.object r) c w = .ok true w' ∧ w.realm.Later w'.realm ∧
      w'.realm.iterations = w.realm.iterations := by
  obtain ⟨a, w', read, later, rfl⟩ := Yields.nodeType (n := n) page W.toIntact h.toIsWrapper few (node_of_element he) room
  refine ⟨w', ?_, later, iterations_of_getter (q := ("nodeType", .nodeType)) (by decide) W.toIntact h.toIsWrapper
    (room.mono (by decide) (by decide)) read⟩
  rw [Kernel.isElement, bind_of_ok read]
  exact congrArg (EStateM.Result.ok · w') (show (Value.nat 1).strictEq (.number 1.0) = true by decide +kernel)

/-- The loop comes by the elements of the chain, up to the first one that the selector matches. -/
theorem YieldsAfter.closestFrom (W : w.realm.Whole) (room : c.Room 4 15) (few : w.realm.iterations ≤ c.config.loopLimit + 1)
    (enough : c.config.loopLimit + 3 ≤ w.realm.iterations + fuel) (read : Selector.read s.toText = .ok selector)
    (he : d.numbered.element i = .ok e) (h : Wraps i v w.realm.objects) :
    let q (f : Element) := f.matchesWithin none selector
    YieldsAfter (w.realm.iterations + e.chain.findIdx q) ((kernel (n + 5)).closestFrom (.text s) fuel v) c w
      (WrapsElement? d (e.chain.find? q)) := by
  intro q
  -- The induction is on the chain; what is left of the limit is left of the fuel too.
  induction chain : e.chain generalizing e i v w fuel with
  | nil => cases chain
  | cons first rest ih =>
    obtain ⟨fuel, rfl⟩ : ∃ k, fuel = k + 1 := ⟨fuel - 1, by omega⟩
    obtain rfl : e = first := (List.cons.inj chain).1
    obtain ⟨r, rfl, kept⟩ := h
    have exact := Nat.lt_of_lt_of_le (lt_of_element he) small
    obtain ⟨w₁, isElement, l₁, count₁⟩ := isElement_run (n := n + 3) page W (room.mono (by decide) (by decide)) kept he exact
    have W₁ := W.later l₁
    have kept₁ := kept.later l₁
    have asked : d.numbered.isMatch (some i) s.toText = .ok (q e) := by
      simp only [NumberedDocument.isMatch, he, Element.matchesText, read]
      rfl
    have matched : (kernel (n + 5)).askOf (.object r) "matches" [.text s] c w₁ = .ok (.bool (q e)) w₁ :=
      (askOf_run [.text s] W₁.toIntact kept₁.toIsWrapper (q := ("matches", 2, .matches)) (by decide)
        (room.mono (by decide) (by decide))).trans (matches_run page exact asked)
    rw [Kernel.closestFrom, List.findIdx_cons, List.find?_cons]
    refine .after isElement l₁ (.after matched (.refl _) ?_)
    cases hit : q e with
    | true => exact .of_yields few (.of_ok rfl ⟨i, he, r, rfl, kept₁⟩)
    | false =>
      rw [cond_false, if_neg (show ¬ (Value.bool false).isTruthy = true from Bool.false_ne_true)]
      refine .countIteration (by omega) fun few₁ => ?_
      let w₂ : World := { w₁ with realm := { w₁.realm with iterations := w₁.realm.iterations + 1 } }
      have l₂ : w₁.realm.Later w₂.realm := ⟨Nat.le_refl _, fun _ _ => .inl rfl, rfl, rfl⟩
      have W₂ := W₁.later l₂
      have kept₂ := kept₁.later l₂
      obtain ⟨u, w₃, up, l₃, above⟩ := Yields.parentElement (n := n) (w := w₂) page W₂.toIntact small room kept₂.toIsWrapper he
      have count₃ : w₃.realm.iterations = w.realm.iterations + 1 := by
        rw [iterations_of_getter (q := ("parentElement", .parentElement)) (by decide) W₂.toIntact kept₂.toIsWrapper
          (room.mono (by decide) (by decide)) up, ← count₁]
      refine .after up l₃ ?_
      rw [show w.realm.iterations + (rest.findIdx q + 1) = w₃.realm.iterations + rest.findIdx q by omega]
      cases parent : e.parent? with
      | none =>
        obtain rfl : rest = [] := by simpa [chain] using Element.chain_of_top parent
        rw [parent] at above
        obtain rfl : u = .null := above
        obtain ⟨fuel, rfl⟩ : ∃ k, fuel = k + 1 := ⟨fuel - 1, by omega⟩
        rw [Kernel.closestFrom]
        exact .of_yields (by rw [count₃, ← count₁]; exact Nat.succ_le_succ few₁) (.of_ok rfl rfl)
      | some f =>
        obtain rfl : rest = f.chain := by simpa [chain] using Element.chain_of_parent parent
        rw [parent] at above
        obtain ⟨j, hj, wraps⟩ := above
        exact ih (W₂.later l₃) (by omega) (by omega) hj wraps rfl

end Loops

section Methods

variable {d : Document} {n i : Nat} {r : Ref} {s : CodeUnits} {e : Element} {selector : Selector} {v : Value}

/-- A script calls a method of a value. -/
def Kernel.callMethod (k : Kernel) (o : Value) (key : Name) (args : List Value) : Run Value := do
  let g ← k.propertyOf o key
  k.apply g o args

/-- A method of a node goes around in a loop as often as what it does. -/
theorem YieldsAfter.callMethod {P : Value → Array Obj → Prop} {number : Value} {args : List Value}
    {q : String × Nat × NodeFunction} (hq : q ∈ nodeMethods) (W : w.realm.Whole)
    (hr : IsOpenWrapper w.realm.objects r number) (room : c.Room 1 (2 + args.length + 1))
    (does : YieldsAfter m ((kernel n).nodeFunction q.2.2 (.object r) args) (c.inner (2 + args.length + q.2.2.registers))
      w.framed P) :
    YieldsAfter m ((kernel (n + 1)).callMethod (.object r) (CodeUnits.ofString q.1) args) c w P := by
  obtain ⟨g, read, hg⟩ := exists_method (c := c) hq W hr (kernel (n + 1))
  have this : looseThis (.object r) (c.inner (2 + args.length + q.2.2.registers)) w.framed = .ok (.object r) w.framed := rfl
  exact .after read (.refl _) (.of_run_eq (apply_framed_run hg rfl) (.asCall room (.after this (.refl _) does)))

/-- The closest element that a selector matches. -/
theorem YieldsAfter.closest (page : c.page = d.numbered) (small : d.nodes.length ≤ 2 ^ 53) (W : w.realm.Whole)
    (room : c.Room 5 21) (read : Selector.read s.toText = .ok selector) (he : d.numbered.element i = .ok e)
    (h : Wraps i v w.realm.objects) :
    let q (f : Element) := f.matchesWithin none selector
    YieldsAfter (e.chain.findIdx q) ((kernel (n + 6)).callWith v "closest" s) c w (WrapsElement? d (e.chain.find? q)) := by
  intro q
  obtain ⟨r, rfl, kept⟩ := h
  have inner : (c.inner 6).Room 4 15 := room.inner (by decide) (by decide)
  refine .callMethod (q := ("closest", 1, .method .closest)) (by simp [nodeMethods, nodeMethod]) W kept.toIsOpenWrapper
    (room.mono (by decide) (show 2 + 1 + 1 ≤ 21 by decide)) ?_
  refine .of_run_eq (bind_of_ok read_run _) ?_
  refine .after (asText_run (n := n + 3) W.framed s (inner.mono (by decide) (by decide))) (.refl _) ?_
  have enough : c.config.loopLimit + 3 ≤ 0 + (c.config.loopLimit + 3) := Nat.le_of_eq (Nat.zero_add _).symm
  have loop := YieldsAfter.closestFrom (n := n) (c := c.inner 6) (w := w.framed) page small W.framed inner (Nat.zero_le _)
    enough read he ⟨r, rfl, kept.later (.framed w)⟩
  dsimp only at loop
  rwa [Nat.zero_add] at loop

end Methods

end Script

end Pagewalk
