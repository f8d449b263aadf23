import Pagewalk.Proofs.Identity
import Pagewalk.Proofs.Script.Loops

/-!
# Going up in loops

A script asks for the closest element that a selector matches, and whether a node stands in another, by functions that go up
from node to node in a loop. They come by the element and those above it, from parent to parent, and at last by the document,
and answer what is found there. But their loops count like those of the script: where they go around more often than a loop
may, the script is broken off.
-/

namespace Pagewalk

/-- The places by which one comes going up from a place to the document. -/
inductive NumberedDocument.Ascent (p : NumberedDocument) : Option Nat → List (Option Nat) → Prop where
  | document : Ascent p none [none]
  | node {i : Nat} {up : Option Nat} {ps : List (Option Nat)} (parent : p.parent (some i) = .ok up)
      (rest : Ascent p up ps) : Ascent p (some i) (some i :: ps)

/-- Going up from an element one comes by its chain, and at last by the document. -/
theorem NumberedDocument.exists_ascent {d : Document} {i : Nat} {e : Element} (he : d.numbered.element i = .ok e) :
    ∃ is : List Nat, d.numbered.Ascent (some i) (is.map some ++ [none]) ∧ is.map d.numbered.element = e.chain.map .ok := by
  induction chain : e.chain generalizing e i with
  | nil => cases chain
  | cons first rest ih =>
    obtain rfl : e = first := (List.cons.inj chain).1
    cases parent : e.parent? with
    | none =>
      obtain rfl : rest = [] := by simpa [chain] using Element.chain_of_top parent
      exact ⟨[i], .node ((parent_eq_none he).mpr parent) .document, by simp [he]⟩
    | some f =>
      obtain rfl : rest = f.chain := by simpa [chain] using Element.chain_of_parent parent
      obtain ⟨j, -, hj⟩ := exists_position (parent_mem (mem_of_element he) parent)
      obtain ⟨is, way, elements⟩ := ih hj rfl
      exact ⟨i :: is, .node ((parent_eq_some he).mpr ⟨f, parent, hj⟩) way, by simp [he, elements]⟩

namespace Script

open Text

/-! ### What a node stands in -/

section Loops

variable {d : Document} {c : Context} {w : World} {n fuel : Nat} {v : Value}
  (page : c.page = d.numbered) (small : d.nodes.length ≤ 2 ^ 53)

include page small

omit page small in
/-- Nothing stands above the document. -/
theorem Yields.parentNode_document (W : w.realm.Whole) (room : c.Room 3 12) :
    Yields ((kernel (n + 4)).propertyOf w.realm.document "parentNode") c w fun u _ => u = .null := by
  obtain ⟨r, document, wrapper⟩ := W.openDocument
  rw [document]
  refine .getter (q := ("parentNode", .parentNode)) (by decide) W.toIntact wrapper.toIsWrapper
    (room.mono (by decide) (by decide)) ?_
  rw [Kernel.nodeProperty]
  refine .of_bind (documentValue_run rfl) ?_
  rw [show w.framed.realm.document = w.realm.document from rfl, document,
    show (Value.object r).strictEq (.object r) = true from beq_self_eq_true r]
  exact .of_ok rfl rfl

/-- What stands above a place, and nothing above the document, with no iteration counted. -/
theorem Yields.placeAbove {place : Option Nat} {ps : List (Option Nat)} (W : w.realm.Whole) (room : c.Room 3 12)
    (within : ∀ i, place = some i → i < d.nodes.length) (way : d.numbered.Ascent place ps)
    (h : Stands w.realm.document place v w.realm.objects) :
    ∃ u w', (kernel (n + 4)).propertyOf v "parentNode" c w = .ok u w' ∧ w.realm.Later w'.realm ∧
      w'.realm.iterations = w.realm.iterations ∧
      ((ps = [place] ∧ u = .null) ∨ ∃ up rest, ps = place :: rest ∧ d.numbered.Ascent up rest ∧
        (∀ i, up = some i → i < d.nodes.length) ∧ Stands w'.realm.document up u w'.realm.objects) := by
  have room' : c.Room 1 3 := room.mono (by decide) (by decide)
  cases way with
  | document =>
    obtain rfl : v = w.realm.document := h
    obtain ⟨r, document, wrapper⟩ := W.openDocument
    obtain ⟨u, w', read, later, rfl⟩ := Yields.parentNode_document (n := n) W room
    rw [document] at read
    have count := iterations_of_getter (q := ("parentNode", .parentNode)) (by decide) W.toIntact wrapper.toIsWrapper room' read
    rw [document]
    exact ⟨.null, w', read, later, count, .inl ⟨rfl, rfl⟩⟩
  | @node i up rest parent above =>
    obtain ⟨u, w', read, later, stands⟩ := Yields.parentOf (n := n) page small W room
      (Nat.lt_of_lt_of_le (within i rfl) small) h parent
    obtain ⟨r, rfl, kept⟩ := h
    have count := iterations_of_getter (q := ("parentNode", .parentNode)) (by decide) W.toIntact kept.toIsWrapper room' read
    refine ⟨u, w', read, later, count, .inr ⟨up, rest, rfl, above, ?_, later.document.symm ▸ stands⟩⟩
    rintro j rfl
    exact NumberedDocument.lt_of_parent parent

/-- The loop comes by the nodes above a node and at last by the document, up to the one that is asked about. -/
theorem YieldsAfter.leadsTo {place scope : Option Nat} {ps : List (Option Nat)} {this : Value} (W : w.realm.Whole)
    (room : c.Room 3 12) (few : w.realm.iterations ≤ c.config.loopLimit + 1)
    (enough : c.config.loopLimit + 3 ≤ w.realm.iterations + fuel) (way : d.numbered.Ascent place ps)
    (within : ∀ i, place = some i → i < d.nodes.length) (within' : ∀ i, scope = some i → i < d.nodes.length)
    (h : Stands w.realm.document place v w.realm.objects) (h' : Stands w.realm.document scope this w.realm.objects) :
    YieldsAfter (w.realm.iterations + ps.idxOf scope) ((kernel (n + 4)).leadsTo this fuel v) c w
      fun b _ => b = ps.contains scope := by
  have exact {place : Option Nat} (h : ∀ i, place = some i → i < d.nodes.length) (i : Nat) (hi : place = some i) :
      i < 2 ^ 53 := Nat.lt_of_lt_of_le (h i hi) small
  -- The induction is on the places above; what is left of the limit is left of the fuel too.
  induction ps generalizing place v w fuel with
  | nil => cases way
  | cons first rest ih =>
    obtain ⟨fuel, rfl⟩ : ∃ k, fuel = k + 1 := ⟨fuel - 1, by omega⟩
    obtain rfl : place = first := by cases way <;> rfl
    have identical := h.strictEq_iff W h' (exact within) (exact within')
    obtain ⟨r, x, rfl, -⟩ := h.wrapper W (exact within)
    rw [Kernel.leadsTo, if_neg (show ¬ (!(Value.object r).isTruthy) = true from Bool.false_ne_true), List.idxOf_cons,
      List.contains_cons]
    by_cases same : place = scope
    · rw [if_pos (identical.mpr same)]
      exact .of_yields (by simpa [same] using few) (.of_ok rfl (by simp [same]))
    · have other : (place == scope) = false := by simpa using same
      have other' : (scope == place) = false := by simpa using Ne.symm same
      rw [if_neg (mt identical.mp same), other, other', cond_false, Bool.false_or]
      refine .countIteration (by omega) fun few₁ => ?_
      let w₁ : World := { w with realm := { w.realm with iterations := w.realm.iterations + 1 } }
      have l₁ : w.realm.Later w₁.realm := ⟨Nat.le_refl _, fun _ _ => .inl rfl, rfl, rfl⟩
      have W₁ := W.later l₁
      obtain ⟨u, w₂, read, l₂, count, ended | ⟨up, rest', eq, above, inside, stands⟩⟩ :=
        Yields.placeAbove (n := n) (w := w₁) page small W₁ room within way (h.later l₁)
      · obtain ⟨eq, rfl⟩ := ended
        obtain rfl := (List.cons.inj eq).2
        obtain ⟨fuel, rfl⟩ : ∃ k, fuel = k + 1 := ⟨fuel - 1, by omega⟩
        refine .after read l₂ ?_
        rw [Kernel.leadsTo]
        exact .of_yields (Nat.succ_le_succ few₁) (.of_ok rfl rfl)
      · obtain rfl := (List.cons.inj eq).2
        have count₂ : w₂.realm.iterations = w.realm.iterations + 1 := count
        refine .after read l₂ ?_
        rw [show w.realm.iterations + (rest.idxOf scope + 1) =
          w₂.realm.iterations + rest.idxOf scope by omega]
        exact ih (W₁.later l₂) (by omega) (by omega) above inside stands ((h'.later l₁).later l₂)

/-- A node is asked whether a place stands in it or is it. -/
theorem YieldsAfter.contains {place scope : Option Nat} {ps : List (Option Nat)} {this : Value} (W : w.realm.Whole)
    (room : c.Room 5 21) (way : d.numbered.Ascent place ps) (within : ∀ i, place = some i → i < d.nodes.length)
    (within' : ∀ i, scope = some i → i < d.nodes.length) (h : Stands w.realm.document place v w.realm.objects)
    (h' : Stands w.realm.document scope this w.realm.objects) :
    YieldsAfter (ps.idxOf scope) ((kernel (n + 5)).callMethod this "contains" [v]) c w
      fun x _ => x = .bool (ps.contains scope) := by
  have inner : (c.inner 5).Room 3 12 := room.inner (by decide) (by decide)
  obtain ⟨r, x, rfl, wrapper, -⟩ := h'.wrapper W fun i hi => Nat.lt_of_lt_of_le (within' i hi) small
  refine .callMethod (q := ("contains", 1, .method .contains)) (by simp [nodeMethods, nodeMethod]) W wrapper
    (room.mono (by decide) (show 2 + 1 + 1 ≤ 21 by decide)) ?_
  refine .of_run_eq (bind_of_ok read_run _) ?_
  have enough : c.config.loopLimit + 3 ≤ 0 + (c.config.loopLimit + 3) := Nat.le_of_eq (Nat.zero_add _).symm
  have loop := YieldsAfter.leadsTo (n := n) (c := c.inner 5) (w := w.framed) page small W.framed inner (Nat.zero_le _)
    enough way within within' (h.later (.framed w)) (h'.later (.framed w))
  rw [show w.framed.realm.iterations = 0 from rfl, Nat.zero_add] at loop
  exact loop.map fun b _ hb => congrArg Value.bool hb

end Loops

/-! ### Chains and containment -/

section Elements

variable {d : Document} {c : Context} {w : World} {n i j : Nat} {this u : Value} {a b : Element}

theorem NumberedDocument.getElem?_ascent {is : List Nat} (elements : is.map d.numbered.element = b.chain.map .ok)
    (ha : d.numbered.element i = .ok a) (m : Nat) : is[m]? = some i ↔ b.chain[m]? = some a := by
  have same : is[m]?.map d.numbered.element = b.chain[m]?.map .ok := by
    rw [← List.getElem?_map, elements, List.getElem?_map]
  constructor
  · intro h
    rw [h, Option.map_some, ha, eq_comm, Option.map_eq_some_iff] at same
    obtain ⟨e, he, eq⟩ := same
    rw [he, Except.ok.inj eq]
  · intro h
    rw [h, Option.map_some, Option.map_eq_some_iff] at same
    obtain ⟨k, hk, eq⟩ := same
    rw [hk, NumberedDocument.element_inj eq ha]

/-- An element is asked whether another stands in it or is it, which goes by the chain of the other up to the element. -/
theorem YieldsAfter.contains_element (page : c.page = d.numbered) (small : d.nodes.length ≤ 2 ^ 53) (W : w.realm.Whole)
    (room : c.Room 5 21) (ha : d.numbered.element i = .ok a) (hb : d.numbered.element j = .ok b)
    (h : Wraps i this w.realm.objects) (h' : Wraps j u w.realm.objects) :
    (∀ m, b.chain[m]? = some a →
      YieldsAfter m ((kernel (n + 5)).callMethod this "contains" [u]) c w fun x _ => x = .bool true) ∧
    (a ∉ b.chain →
      YieldsAfter (b.chain.length + 1) ((kernel (n + 5)).callMethod this "contains" [u]) c w fun x _ => x = .bool false) := by
  obtain ⟨is, way, elements⟩ := NumberedDocument.exists_ascent hb
  have asked := YieldsAfter.contains (n := n) page small W room way (by rintro _ ⟨⟩; exact lt_of_element hb)
    (by rintro _ ⟨⟩; exact lt_of_element ha) h' (show Stands _ (some i) _ _ from h)
  have place := NumberedDocument.getElem?_ascent elements ha
  constructor
  · intro m hm
    have among := List.mem_of_getElem? ((place m).mpr hm)
    have once : is.Nodup := by
      refine .of_map (f := d.numbered.element) ?_
      rw [elements]
      exact (Element.nodup_line b.trail).map fun _ _ => Except.ok.inj
    have first : (is.map some ++ [none]).idxOf (some i) = m := by
      have mapped : (is.map some)[m]? = some (some i) := by rw [List.getElem?_map, (place m).mpr hm, Option.map_some]
      obtain ⟨within, eq⟩ := List.getElem?_eq_some_iff.mp mapped
      rw [List.idxOf_append_of_mem (List.mem_map_of_mem among), ← eq,
        (once.map (Option.some_injective _)).idxOf_getElem]
    rw [first] at asked
    refine asked.mono fun x _ hx => hx.trans ?_
    simp [among]
  · intro apart
    have apart' : i ∉ is := by
      intro among
      obtain ⟨m, hm⟩ := List.mem_iff_getElem?.mp among
      exact apart (List.mem_of_getElem? ((place m).mp hm))
    have last : (is.map some ++ [none]).idxOf (some i) = b.chain.length + 1 := by
      rw [List.idxOf_eq_length (by simp [apart']), List.length_append, List.length_map, ← List.length_map d.numbered.element,
        elements, List.length_map, List.length_singleton]
    rw [last] at asked
    refine asked.mono fun x _ hx => hx.trans ?_
    simp [apart']

/-- The document is asked whether an element stands in it, which goes by the whole chain. -/
theorem YieldsAfter.contains_document (page : c.page = d.numbered) (small : d.nodes.length ≤ 2 ^ 53) (W : w.realm.Whole)
    (room : c.Room 5 21) (hb : d.numbered.element j = .ok b) (h : Wraps j u w.realm.objects) :
    YieldsAfter b.chain.length ((kernel (n + 5)).callMethod w.realm.document "contains" [u]) c w
      fun x _ => x = .bool true := by
  obtain ⟨is, way, elements⟩ := NumberedDocument.exists_ascent hb
  have asked := YieldsAfter.contains (n := n) page small W room way (by rintro _ ⟨⟩; exact lt_of_element hb)
    (by rintro _ ⟨⟩) h (show Stands _ none _ _ from rfl)
  have last : (is.map some ++ [none]).idxOf none = b.chain.length := by
    rw [List.idxOf_append_of_notMem (by simp), List.length_map, ← List.length_map d.numbered.element, elements,
      List.length_map]
    rfl
  rw [last] at asked
  refine asked.mono fun x _ hx => hx.trans ?_
  simp

/-- A script finds the first element of the chain that a selector matches, finds that an element contains those in whose
chain it is and no others, and that the document contains them all. It is broken off where that goes around more often than
a loop may. -/
theorem closest_and_contains (page : c.page = d.numbered) (small : d.nodes.length ≤ 2 ^ 53) (W : w.realm.Whole)
    (room : c.Room 5 21) :
    let k := kernel (n + 6)
    (∀ i v (e : Element) (s : CodeUnits) selector, d.numbered.element i = .ok e → Wraps i v w.realm.objects →
      Selector.read s.toText = .ok selector →
        let q (f : Element) := f.matchesWithin none selector
        YieldsAfter (e.chain.findIdx q) (k.callMethod v "closest" [.text s]) c w (WrapsElement? d (e.chain.find? q))) ∧
    (∀ i j v u (a b : Element), d.numbered.element i = .ok a → d.numbered.element j = .ok b →
      Wraps i v w.realm.objects → Wraps j u w.realm.objects →
        (∀ m, b.chain[m]? = some a → YieldsAfter m (k.callMethod v "contains" [u]) c w fun x _ => x = .bool true) ∧
        (a ∉ b.chain → YieldsAfter (b.chain.length + 1) (k.callMethod v "contains" [u]) c w fun x _ => x = .bool false)) ∧
    ∀ j u (b : Element), d.numbered.element j = .ok b → Wraps j u w.realm.objects →
      YieldsAfter b.chain.length (k.callMethod w.realm.document "contains" [u]) c w fun x _ => x = .bool true := by
  intro k
  refine ⟨?closest, ?contains, ?document⟩
  case closest =>
    intro i v e s selector he h read
    exact .closest page small W room read he h
  case contains =>
    intro i j v u a b ha hb h h'
    exact YieldsAfter.contains_element page small W room ha hb h h'
  case document =>
    intro j u b hb h
    exact .contains_document page small W room hb h

end Elements

/-! ### The last paragraph of a page -/

/-- The last paragraph stands in a division, in the body and in the root, which is the first one that a selector matches. -/
theorem exists_chain_twoParagraphs : ∃ (e : Element) (selector : Selector) (f : Element),
    twoParagraphs.numbered.element 6 = .ok e ∧ e.localName = "p" ∧
    Selector.read ("html" : CodeUnits).toText = .ok selector ∧ e.chain.length = 4 ∧
    e.chain.findIdx (·.matchesWithin none selector) = 3 ∧ e.chain.find? (·.matchesWithin none selector) = some f ∧
    f.localName = "html" := by
  have readable : (Selector.read ("html" : CodeUnits).toText).toOption.isSome := by decide +kernel
  have found : (twoParagraphs.numbered.element 6).toOption.isSome := by decide +kernel
  obtain ⟨selector, read⟩ := Option.isSome_iff_exists.mp readable
  obtain ⟨e, he⟩ := Option.isSome_iff_exists.mp found
  have seen : ((twoParagraphs.numbered.element 6).toOption.bind fun e =>
      (Selector.read ("html" : CodeUnits).toText).toOption.map fun selector =>
        let q (f : Element) := f.matchesWithin none selector
        (e.localName, e.chain.length, e.chain.findIdx q, (e.chain.find? q).map (·.localName))) =
      some ("p", 4, 3, some "html") := by decide +kernel
  rw [he, read] at seen
  obtain ⟨name, length, first, matched⟩ : _ ∧ _ ∧ _ ∧ _ := by simpa only [Prod.mk.injEq] using Option.some.inj seen
  obtain ⟨f, hf, root⟩ := Option.map_eq_some_iff.mp matched
  exact ⟨e, selector, f, eq_ok_of_toOption he, name, eq_ok_of_toOption read, length, first, hf, root⟩

/-- The wrapper of the last paragraph, in a window that was just opened. -/
theorem exists_wrapper_twoParagraphs (c : Context) (room : c.Room 5 21) :
    ∃ (v : Value) (w : World), w.realm.Whole ∧ Wraps 6 v w.realm.objects := by
  obtain ⟨v, w, -, later, wraps⟩ := Yields.wrapNumber (n := 0) (c := c) (i := 6) (w := ⟨.equipped, {}⟩)
    Realm.equipped_whole.toIntact (by decide) (room.mono (by decide) (by decide))
  exact ⟨v, w, Realm.equipped_whole.later later, wraps⟩

theorem closest_and_contains_twoParagraphs :
    let d := twoParagraphs
    let c := Context.opening d
    let k := kernel 6
    ∃ (w : World) (v : Value) (e : Element) (selector : Selector) (f : Element), c.page = d.numbered ∧
      d.nodes.length ≤ 2 ^ 53 ∧ w.realm.Whole ∧ c.Room 5 21 ∧
      d.numbered.element 6 = .ok e ∧ Wraps 6 v w.realm.objects ∧ Selector.read ("html" : CodeUnits).toText = .ok selector ∧
      e.localName = "p" ∧ f.localName = "html" ∧
      Yields (k.callMethod v "closest" [.text "html"]) c w (WrapsElement? d (some f)) ∧
      Yields (k.callMethod v "contains" [v]) c w (fun x _ => x = .bool true) ∧
      Yields (k.callMethod w.realm.document "contains" [v]) c w fun x _ => x = .bool true := by
  intro d c k
  have small : d.nodes.length ≤ 2 ^ 53 := by decide +kernel
  have room : c.Room 5 21 := ⟨by decide, by decide⟩
  obtain ⟨v, w, W, wraps⟩ := exists_wrapper_twoParagraphs c room
  obtain ⟨e, selector, f, he, name, read, length, first, found, root⟩ := exists_chain_twoParagraphs
  obtain ⟨closest, contains, document⟩ := closest_and_contains (n := 0) (c := c) rfl small W room
  have self : e.chain[0]? = some e := by rw [Element.chain, Element.line_trail, List.getElem?_cons_zero]
  refine ⟨w, v, e, selector, f, rfl, small, W, room, he, wraps, read, name, root, ?_, ?_, ?_⟩
  · exact found ▸ (closest 6 v e "html" selector he wraps read).within (first ▸ by decide)
  · exact ((contains 6 6 v v e e he he wraps wraps).1 0 self).within (Nat.zero_le _)
  · exact (document 6 v e he wraps).within (length ▸ by decide)

/-- Where a loop may go around once, the root is not found from the last paragraph, nor the paragraph in the document. -/
theorem closest_and_contains_broken_off :
    let d := twoParagraphs
    let c := { Context.opening d with config := { loopLimit := 1 } }
    let k := kernel 6
    ∃ (w : World) (v : Value) (e : Element) (selector : Selector) (f : Element), w.realm.Whole ∧
      d.numbered.element 6 = .ok e ∧ Wraps 6 v w.realm.objects ∧
      Selector.read ("html" : CodeUnits).toText = .ok selector ∧ e.chain.find? (·.matchesWithin none selector) = some f ∧
      Overruns (k.callMethod v "closest" [.text "html"]) c w ∧ Overruns (k.callMethod w.realm.document "contains" [v]) c w := by
  intro d c k
  have small : d.nodes.length ≤ 2 ^ 53 := by decide +kernel
  have room : c.Room 5 21 := ⟨by decide, by decide⟩
  obtain ⟨v, w, W, wraps⟩ := exists_wrapper_twoParagraphs c room
  obtain ⟨e, selector, f, he, -, read, length, first, found, -⟩ := exists_chain_twoParagraphs
  have closest := YieldsAfter.closest (n := 0) (c := c) rfl small W room read he wraps
  have document := YieldsAfter.contains_document (n := 1) (c := c) rfl small W room he wraps
  exact ⟨w, v, e, selector, f, W, he, wraps, read, found, closest.beyond (first ▸ by decide),
    document.beyond (length ▸ by decide)⟩

end Script

end Pagewalk
