import Pagewalk.Proofs.Script.Arrivals
import Pagewalk.Proofs.Script.Sparing
import Pagewalk.Proofs.Sessions

/-!
# Identity of nodes

Scripts compare nodes by their wrappers. The array that keeps wrappers has one for each number, and keeps it whatever
scripts do that leave nodes alone; so whenever and however scripts come to nodes, the wrappers are identical exactly if
the nodes are the same, and no wrapper of a node is the document.

The array also has what arrays have from their parents. A script that puts an item there has it taken for the wrapper of
a node, and then wrappers of different nodes are identical.
-/

namespace Pagewalk

namespace Script

open Text

/-! ### Wrappers of numbers -/

section Wrappers

variable {m m' : Realm} {os : Array Obj} {d : Document} {place place' : Option Nat} {v v' : Value} {i j : Nat}

theorem Wraps.strictEq_iff (h : Wraps i v os) (h' : Wraps j v' os) (hi : i < 2 ^ 53) (hj : j < 2 ^ 53) :
    v.strictEq v' = true ↔ i = j := by
  obtain ⟨r, rfl, kept⟩ := h
  obtain ⟨s, rfl, kept'⟩ := h'
  refine beq_iff_eq.trans ⟨fun same => ?_, fun same => ?_⟩
  · subst same
    obtain ⟨_, _, _, number⟩ := kept.number
    obtain ⟨_, _, _, number'⟩ := kept'.number
    have value : Value.nat i = .nat j := by
      have := Option.some.inj (number.symm.trans number')
      injection this
    have double : i.toFloat = j.toFloat := Value.number.inj value
    exact Option.some.inj ((nodeNumber_toFloat hi).symm.trans (double ▸ nodeNumber_toFloat hj))
  · subst same
    have item := Option.some.inj (kept.cached.symm.trans kept'.cached)
    injection item with item
    exact Value.object.inj item

theorem Wraps.ne_document (W : m.Whole) (h : Wraps i v m.objects) (hi : i < 2 ^ 53) :
    ∃ r s, v = .object r ∧ m.document = .object s ∧ r ≠ s := by
  obtain ⟨r, rfl, kept⟩ := h
  obtain ⟨s, document, wrapper, -⟩ := W.document
  exact ⟨r, s, rfl, document, wrapper_ne_document hi kept.toIsWrapper wrapper⟩

/-- A wrapper that is kept is the wrapper of its node still when scripts have left nodes alone. -/
theorem Wraps.spared (h : Wraps i v m.objects) (s : m.Spares m') : Wraps i v m'.objects := by
  obtain ⟨r, rfl, kept⟩ := h
  obtain ⟨t, item, kept'⟩ := s.whole.cache.kept i _ (s.items i _ kept.cached)
  injection item with item
  obtain rfl := Value.object.inj item
  exact ⟨r, rfl, kept'⟩

theorem Stands.spared (h : Stands m.document place v m.objects) (s : m.Spares m') :
    Stands m'.document place v m'.objects := by
  cases place with
  | none => exact h.trans s.document.symm
  | some i => exact Wraps.spared h s

theorem Stands.later (h : Stands m.document place v m.objects) (l : m.Later m') :
    Stands m'.document place v m'.objects := by
  cases place with
  | none => exact h.trans l.document.symm
  | some i => exact Wraps.later h l

/-- What stands at places is identical if the places are the same. -/
theorem Stands.strictEq_iff (W : m.Whole) (h : Stands m.document place v m.objects)
    (h' : Stands m.document place' v' m.objects) (few : ∀ i, place = some i → i < 2 ^ 53)
    (few' : ∀ i, place' = some i → i < 2 ^ 53) : v.strictEq v' = true ↔ place = place' := by
  cases place with
  | none =>
    obtain rfl : v = m.document := h
    cases place' with
    | none =>
      obtain ⟨r, document, -⟩ := W.document
      rw [show v' = m.document from h', document]
      exact iff_of_true (beq_self_eq_true r) rfl
    | some j =>
      obtain ⟨r, s, rfl, document, other⟩ := Wraps.ne_document W h' (few' j rfl)
      rw [document]
      exact iff_of_false (fun same => other (beq_iff_eq.mp same).symm) nofun
  | some i =>
    cases place' with
    | none =>
      obtain rfl : v' = m.document := h'
      obtain ⟨r, s, rfl, document, other⟩ := Wraps.ne_document W h (few i rfl)
      rw [document]
      exact iff_of_false (fun same => other (beq_iff_eq.mp same)) nofun
    | some j => exact (Wraps.strictEq_iff h h' (few i rfl) (few' j rfl)).trans Option.some_inj.symm

/-- Numbers are the same if they are those of the same element. -/
theorem eq_iff_isSame {e f : Element} (he : d.numbered.element i = .ok e) (hf : d.numbered.element j = .ok f) :
    i = j ↔ d.isSame e d f = true := by
  rw [Document.isSame, beq_self_eq_true, Bool.true_and, beq_iff_eq]
  constructor
  · rintro rfl
    obtain rfl := Except.ok.inj (he.symm.trans hf)
    rfl
  · intro key
    obtain rfl := Document.eq_of_key (NumberedDocument.mem_of_element he) (NumberedDocument.mem_of_element hf) key
    exact NumberedDocument.element_inj he hf

end Wrappers

end Script

/-! ### Evaluations of a window -/

namespace Session

open Script Text

variable {s s' : Session} {w : WindowId} {x : Window} {m : Realm} {observe : Observer} {source : String}

/-- An evaluation in a realm of a window leaves nodes alone: it would not break off if it had to. -/
def LeavesNodes (observe : Observer) (s : Session) (w : WindowId) (x : Window) (m : Realm) (source : String) : Prop :=
  let step := x.kernel.evaluateWhole (handedOver source)
  let c := x.context observe
  let world : World := ⟨m, (s.enter x.page).setRealm w .busy⟩
  step.act .caring c world = step c world

/-- A window in which a script was evaluated that leaves nodes alone has a realm that its own has reached. -/
theorem reaches_of_evaluate (keeps : Keeping observe) (h : s.windows[w]? = some x) (idle : x.realm = .idle m)
    (leaves : LeavesNodes observe s w x m source) :
    ∃ m', (s.evaluate observe w source).2.windows[w]? = some { x with realm := .idle m' } ∧ m.Reaches m' := by
  let step := x.kernel.evaluateWhole (handedOver source)
  let c := x.context observe
  let world : World := ⟨m, (s.enter x.page).setRealm w .busy⟩
  have reached : m.Reaches (finalWorld (step c world)).realm := .step (w := world) .refl step c leaves
  have kept := keeps_run (l := .own) step (c := c) keeps world
  rw [evaluate_eq keeps, evaluateBy, h]
  dsimp only
  split
  next =>
    refine ⟨m, ?_, .refl⟩
    rw [← idle]
    exact h
  next =>
    rw [evaluateActive, idle]
    dsimp only
    have busied : world.session.windows[w]? = some { x with realm := .busy } := by
      rw [windows_setRealm, if_pos rfl]
      exact congrArg (Option.map _) h
    obtain ⟨r, there, -⟩ := kept.windows w _ busied
    refine ⟨_, ?_, reached⟩
    rw [session_runIn]
    refine (windows_setRealm _ w w _).trans ?_
    rw [if_pos rfl, there]
    rfl

/-- Evaluations of a window, one after another, which leave nodes alone. -/
inductive Evaluated (w : WindowId) (s : Session) : Session → Prop
  | refl : Evaluated w s s
  | step {s' : Session} {x : Window} {m : Realm} {observe : Observer} {source : String} (first : Evaluated w s s')
    (keeps : Keeping observe) (h : s'.windows[w]? = some x) (idle : x.realm = .idle m)
    (leaves : LeavesNodes observe s' w x m source) : Evaluated w s (s'.evaluate observe w source).2

/-- However often scripts were evaluated that leave nodes alone, the realm of the window has reached the one it has. -/
theorem reaches_of_evaluated (run : Evaluated w s s') (h : s.windows[w]? = some x) (idle : x.realm = .idle m) :
    ∃ m', s'.windows[w]? = some { x with realm := .idle m' } ∧ m.Reaches m' := by
  induction run with
  | refl =>
    refine ⟨m, ?_, .refl⟩
    rw [← idle]
    exact h
  | step _ keeps h' idle' leaves ih =>
    obtain ⟨m₁, there, reached⟩ := ih
    obtain rfl := Option.some.inj (there.symm.trans h')
    cases idle'
    obtain ⟨m₂, there', reached'⟩ := reaches_of_evaluate keeps h' rfl leaves
    exact ⟨m₂, there', reached.trans reached'⟩

end Session

namespace Script

/-! ### Scripts that compare nodes -/

/-- A script runs in a window with a document: there is room for its calls, and no scope of its own hides the name of
the document. -/
structure Ready (d : Document) (c : Context) (fr : Frame) (m : Realm) : Prop where
  page : c.page = d.numbered
  room : c.Room 6 27
  free : fr.IsFree m "document"

theorem Ready.later {d : Document} {c : Context} {fr : Frame} {m m' : Realm} (h : Ready d c fr m) (l : m.Later m') :
    Ready d c fr m' := by
  refine ⟨h.page, h.room, ?_⟩
  rw [Frame.IsFree, l.scopes]
  exact h.free

/-- However two scripts come to nodes, in one evaluation or in several, and whatever is done in between that leaves nodes
alone: what they get is identical exactly if they came to the same place, wrappers of elements are identical exactly if
the elements are the same, and no wrapper of a node is identical to the document. -/
theorem identity_of_nodes (d : Document) (small : d.nodes.length ≤ 2 ^ 53) {n : Nat} {c : Context} {fr : Frame}
    {w : World} (W : w.realm.Whole) (ready : Ready d c fr w.realm) {p : Way} {place : Option Nat}
    (hp : p.place? d c.config.loopLimit = some place) :
    ∃ v w₁, p.expr.run (kernel (n + 6)) fr c w = .ok v w₁ ∧ w.realm.Later w₁.realm ∧
      Stands w₁.realm.document place v w₁.realm.objects ∧
      ∀ (w₂ : World) (n' : Nat) (c' : Context) (fr' : Frame) (q : Way) (place' : Option Nat),
        w₁.realm.Reaches w₂.realm → Ready d c' fr' w₂.realm → q.place? d c'.config.loopLimit = some place' →
        ∃ v' w₃, q.expr.run (kernel (n' + 6)) fr' c' w₂ = .ok v' w₃ ∧
          Stands w₃.realm.document place' v' w₃.realm.objects ∧ (v.strictEq v' = true ↔ place = place') ∧
          (∀ i j x y e f, Wraps i x w₁.realm.objects → Wraps j y w₃.realm.objects → d.numbered.element i = .ok e →
            d.numbered.element j = .ok f → (x.strictEq y = true ↔ d.isSame e d f = true)) ∧
          ∀ i x, i < d.nodes.length → Wraps i x w₃.realm.objects → x.strictEq w₃.realm.document = false := by
  obtain ⟨v, w₁, run, later, stands⟩ := Yields.way (n := n) ready.page small W ready.free ready.room p hp
  rw [← later.document] at stands
  have W₁ := W.later later
  refine ⟨v, w₁, run, later, stands, fun w₂ n' c' fr' q place' reaches ready' hq => ?_⟩
  have spares := reaches.spares W₁
  obtain ⟨v', w₃, run', later', stands'⟩ :=
    Yields.way (n := n') ready'.page small spares.whole ready'.free ready'.room q hq
  rw [← later'.document] at stands'
  have W₃ := spares.whole.later later'
  have few {i : Nat} (h : i < d.nodes.length) : i < 2 ^ 53 := Nat.lt_of_lt_of_le h small
  have still {i : Nat} {x : Value} (h : Wraps i x w₁.realm.objects) : Wraps i x w₃.realm.objects :=
    (h.spared spares).later later'
  refine ⟨v', w₃, run', stands', ?_, fun i j x y e f hx hy he hf => ?_, fun i x hi hx => ?_⟩
  · have before : Stands w₃.realm.document place v w₃.realm.objects := Stands.later (stands.spared spares) later'
    exact before.strictEq_iff W₃ stands' (fun i hi => few (Way.lt_of_place (hi ▸ hp)))
      fun i hi => few (Way.lt_of_place (hi ▸ hq))
  · exact ((still hx).strictEq_iff hy (few (lt_of_element he)) (few (lt_of_element hf))).trans (eq_iff_isSame he hf)
  · obtain ⟨r, s, rfl, document, other⟩ := Wraps.ne_document W₃ hx (few hi)
    rw [document]
    exact beq_false_of_ne other

/-- Making the wrapper of a node leaves nodes alone. -/
theorem reaches_wrapNumber {n i : Nat} {c : Context} {w : World} (W : w.realm.Whole) (hi : i < 2 ^ 53)
    (room : c.Room 1 4) : ∃ v w', (kernel (n + 2)).wrapNumber (.nat i) c w = .ok v w' ∧ w.realm.Later w'.realm ∧
      w.realm.Reaches w'.realm ∧ Wraps i v w'.realm.objects := by
  obtain ⟨v, w', run, later, wraps, -⟩ := wrapNumber_run (n := n) (c := c) W.toIntact hi room
  have own := run .own (Finding.allowsWrappers_own _)
  have caring := run .caring (Finding.allowsWrappers_caring W)
  have reached : w.realm.Reaches (finalWorld ((kernel (n + 2)).wrapNumber (.nat i) c w)).realm :=
    .step (w := w) .refl _ c (caring.trans own.symm)
  rw [own] at reached
  exact ⟨v, w', own, later, reached, wraps⟩

theorem place_firstNode (d : Document) (limit : Nat) :
    (Way.item .document (.kids false) 0).place? d limit = some (some 0) := by
  rw [Way.place?, Way.place?, Option.bind_eq_bind, Option.bind_some, Selection.members,
    NumberedDocument.children_document]
  rfl

theorem identity_of_nodes_twoParagraphs :
    let d := twoParagraphs
    let c := Context.opening d
    let w : World := ⟨.equipped, {}⟩
    let fr : Frame := default
    let p : Way := .part .root
    let q : Way := .item .document (.kids false) 0
    d.nodes.length ≤ 2 ^ 53 ∧ w.realm.Whole ∧ Ready d c fr w.realm ∧ p.place? d c.config.loopLimit = some (some 0) ∧
      q.place? d c.config.loopLimit = some (some 0) ∧
      ∃ v w₁ w₂ v' w₃, p.expr.run (kernel 6) fr c w = .ok v w₁ ∧ w₁.realm.Reaches w₂.realm ∧ Ready d c fr w₂.realm ∧
        (∃ x, Wraps 4 x w₂.realm.objects) ∧ q.expr.run (kernel 6) fr c w₂ = .ok v' w₃ ∧ v.strictEq v' = true := by
  intro d c w fr p q
  have small : d.nodes.length ≤ 2 ^ 53 := by decide +kernel
  have room : c.Room 6 27 := ⟨by decide, by decide⟩
  have W : w.realm.Whole := Realm.equipped_whole
  have ready : Ready d c fr w.realm := ⟨rfl, room, rfl⟩
  have hp : p.place? d c.config.loopLimit = some (some 0) := rfl
  have hq : q.place? d c.config.loopLimit = some (some 0) := place_firstNode d _
  obtain ⟨v, w₁, run, later, -, next⟩ := identity_of_nodes d small (n := 0) W ready hp
  obtain ⟨x, w₂, -, later', reaches, wraps⟩ := reaches_wrapNumber (n := 0) (i := 4) (c := c) (W.later later) (by decide)
    (room.mono (by decide) (by decide))
  have ready₂ : Ready d c fr w₂.realm := ready.later (later.trans later')
  obtain ⟨v', w₃, run', -, same, -⟩ := next w₂ 0 c fr q (some 0) reaches ready₂ hq
  exact ⟨small, W, ready, hp, hq, v, w₁, w₂, v', w₃, run, reaches, ready₂, ⟨x, wraps⟩, run', same.mpr rfl⟩

/-! ### Items that arrays have from their parent -/

section Items

variable {n i j : Nat} {c : Context} {w : World} {v : Value}

/-- What arrays have from their parent under the number of a node is taken for its wrapper, if none is kept. -/
theorem wrapNumber_of_item {k : Kernel} (hj : j < 2 ^ 53)
    (parent : (objectAt w.realm.objects Intrinsic.cache.ref).parent = some Intrinsic.arrays.ref)
    (fresh : (objectAt w.realm.objects Intrinsic.cache.ref).own? (Obj.indexKey j) = none)
    (item : (objectAt w.realm.objects Intrinsic.arrays.ref).own? (Obj.indexKey j) = some (.plain v))
    (truthy : v.isTruthy) : k.wrapNumber (.nat j) c w = .ok v w := by
  obtain ⟨more, size⟩ : ∃ more, w.realm.objects.size = more + 1 :=
    Nat.exists_eq_add_one_of_ne_zero (Nat.ne_zero_of_lt (lt_size_of_own item))
  have found : k.property Intrinsic.cache.ref (Obj.indexKey j) c w = .ok v w := by
    rw [Kernel.property, bind_of_ok (findProperty_run _ _), size, lookUp_parent fresh parent, lookUp_own item]
    rfl
  rw [Kernel.wrapNumber, bind_of_ok (less_run hj)]
  refine (bind_of_ok (cacheKey_run hj) _).trans ?_
  refine (bind_of_ok found _).trans ?_
  rw [if_pos truthy]
  rfl

/-- A script that puts the wrapper of a node among what arrays have from their parent, under the number of another node
of which no wrapper is kept, has it taken for the wrapper of the other node. -/
theorem item_taken_for_wrapper (I : w.realm.Intact) (hi : i < 2 ^ 53) (hj : j < 2 ^ 53) (other : i ≠ j) (room : c.Room 1 4)
    (fresh : (objectAt w.realm.objects Intrinsic.cache.ref).own? (Obj.indexKey j) = none)
    {items : Array (Option Value)} {length : Nat}
    (array : (objectAt w.realm.objects Intrinsic.arrays.ref).shape = .array items length)
    (takes : (objectAt w.realm.objects Intrinsic.arrays.ref).takes (Obj.indexKey j) = true) :
    ∃ v w₁ w₂, (kernel (n + 2)).wrapNumber (.nat i) c w = .ok v w₁ ∧ Wraps i v w₁.realm.objects ∧
      (kernel (n + 2)).putOf (.object Intrinsic.arrays.ref) (Obj.indexKey j) v false c w₁ = .ok () w₂ ∧
      (kernel (n + 2)).wrapNumber (.nat j) c w₂ = .ok v w₂ := by
  obtain ⟨v, w₁, run, later, wraps, others⟩ := wrapNumber_run (n := n) I hi room
  have I₁ := I.later later
  have within : Intrinsic.arrays.ref < w.realm.objects.size := Nat.lt_of_lt_of_le (by decide) I.size
  have same := later.same within (by decide)
  obtain ⟨noItem, noItem'⟩ := I₁.noItem j
  have free : lookUp w₁.realm.objects (w₁.realm.objects.size + 1) Intrinsic.arrays.ref (Obj.indexKey j) = none := by
    obtain ⟨more, size⟩ := I₁.exists_size
    rw [size, lookUp_parent noItem I₁.arraysParent, lookUp_top noItem' I₁.objectsParent]
  have link : (objectAt w₁.realm.objects Intrinsic.arrays.ref).link? (Obj.indexKey j) = none := by
    rw [same, Obj.link?, array]
  let os := w₁.realm.objects.modify Intrinsic.arrays.ref (·.define (Obj.indexKey j) (.plain v))
  have put : (kernel (n + 2)).putOf (.object Intrinsic.arrays.ref) (Obj.indexKey j) v false c w₁ =
      .ok () { w₁ with realm := { w₁.realm with objects := os } } :=
    put_new_run (l := .own) noItem free (same ▸ takes) link trivial
  have cache : objectAt os Intrinsic.cache.ref = objectAt w₁.realm.objects Intrinsic.cache.ref :=
    objectAt_modify_ne (by decide)
  refine ⟨v, w₁, _, run .own (Finding.allowsWrappers_own _), wraps, put, ?_⟩
  refine wrapNumber_of_item hj ?_ ?_ ?_ wraps.truthy
  · exact cache ▸ I₁.cache.store.parent
  · exact cache ▸ (others j other).trans fresh
  · have within₁ := Nat.lt_of_lt_of_le within later.size
    rw [objectAt_modify_self within₁, own_define_index (same ▸ array), if_pos rfl]

/-- On a page with a root and a head the wrapper of the root is put among what arrays have from their parent, and is
given for the head. -/
theorem wrapper_of_other_element :
    let d := twoParagraphs
    let c := Context.opening d
    let k := kernel 2
    ∃ v w₁ w₂ e f, k.wrapNumber (.nat 0) c ⟨.furnished, {}⟩ = .ok v w₁ ∧
      k.putOf (.object Intrinsic.arrays.ref) (Obj.indexKey 1) v false c w₁ = .ok () w₂ ∧
      k.wrapNumber (.nat 1) c w₂ = .ok v w₂ ∧ d.numbered.element 0 = .ok e ∧ d.numbered.element 1 = .ok f ∧
      v.strictEq v = true ∧ d.isSame e d f = false := by
  intro d c k
  obtain ⟨fresh, array, takes⟩ := Realm.furnished_items
  obtain ⟨v, w₁, w₂, first, ⟨r, object, -⟩, put, second⟩ := item_taken_for_wrapper (n := 0) (i := 0) (j := 1)
    (w := ⟨.furnished, {}⟩) (c := c) Realm.furnished_intact (by decide) (by decide) (by decide) ⟨by decide, by decide⟩
    (fresh 1) array (takes _)
  have head : (d.numbered.element 1).toOption.isSome = true := by decide +kernel
  obtain ⟨f, hf⟩ := Option.isSome_iff_exists.mp head
  have he := NumberedDocument.element_zero d
  have apart := mt (eq_iff_isSame he (eq_ok_of_toOption hf)).mpr (by decide)
  exact ⟨v, w₁, w₂, d.root, f, first, put, second, he, eq_ok_of_toOption hf, object ▸ beq_self_eq_true r,
    Bool.eq_false_iff.mpr apart⟩

end Items

end Script

end Pagewalk
