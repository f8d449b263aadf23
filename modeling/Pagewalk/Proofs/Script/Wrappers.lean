import Mathlib.Data.List.Forall2
import Pagewalk.Proofs.Script.Doubles
import Pagewalk.Proofs.Script.Intact
import Pagewalk.Proofs.Script.Items

/-!
# Wrappers

A script has a node by its wrapper, an object that knows the number of the node. A wrapper is made when it is first asked
for, in a realm that stays intact, and the wrappers of a list of numbers come as an array in the order of the numbers.
-/

namespace Pagewalk.Script

open Text

variable {α β : Type} {c : Context} {w w' : World}

/-! ### Making wrappers -/

theorem Realm.Later.of_objects {m : Realm} {os : Array Obj} (size : m.objects.size ≤ os.size)
    (same : ∀ r < m.objects.size, objectAt os r = objectAt m.objects r) : m.Later { m with objects := os } :=
  ⟨size, fun r hr => .inl (same r hr), rfl, rfl⟩

theorem Realm.Later.push (m : Realm) (o : Obj) : m.Later { m with objects := m.objects.push o } :=
  .of_objects (by rw [Array.size_push]; omega) fun _ hr => objectAt_push_of_lt hr

theorem allocate_run {l : Finding} (o : Obj) (plain : o.shape.settles? = none)
    (allowed : l.Allows w.realm { w.realm with objects := w.realm.objects.push o }) :
    (allocate o plain).act l c w =
      .ok w.realm.objects.size { w with realm := { w.realm with objects := w.realm.objects.push o } } :=
  (bind_of_ok realm_run _).trans ((bind_of_ok (modifyRealm_run _ _ allowed) _).trans rfl)

/-- The array that keeps wrappers keeps what it has. -/
def Realm.KeepsItems (m m' : Realm) : Prop :=
  ∀ i p, (objectAt m.objects Intrinsic.cache.ref).own? (Obj.indexKey i) = some p →
    (objectAt m'.objects Intrinsic.cache.ref).own? (Obj.indexKey i) = some p

/-- Some objects are those of a realm, but for one of them and for new ones. -/
structure Realm.Beside (m : Realm) (made : Ref) (os : Array Obj) : Prop where
  size : m.objects.size ≤ os.size
  same : ∀ r < m.objects.size, r ≠ made → objectAt os r = objectAt m.objects r

/-- A way of running that allows the making of wrappers. -/
structure Finding.AllowsWrappers (l : Finding) (m : Realm) : Prop where
  frames : l.AllowsFrames
  later : ∀ m₁ m₂ : Realm, m.Later m₁ → m.Later m₂ → m₁.KeepsItems m₂ → l.Allows m₁ m₂

theorem Finding.allowsWrappers_own (m : Realm) : Finding.own.AllowsWrappers m := ⟨fun _ _ => trivial, fun _ _ _ _ _ => trivial⟩

/-- Neither nodes nor objects have what a wrapper is given of its own. -/
structure NodesFree (os : Array Obj) : Prop where
  size : Intrinsic.count ≤ os.size
  nodesParent : (objectAt os Intrinsic.nodes.ref).parent = some Intrinsic.objects.ref
  objectsParent : (objectAt os Intrinsic.objects.ref).parent = none
  free : ∀ key ∈ [numberKey, "style"], (objectAt os Intrinsic.nodes.ref).own? key = none ∧
    (objectAt os Intrinsic.objects.ref).own? key = none

theorem Realm.Intact.nodesFree {m : Realm} (I : m.Intact) : NodesFree m.objects :=
  ⟨I.size, I.nodesParent, I.objectsParent, I.free⟩

theorem NodesFree.of_same {os os' : Array Obj} (F : NodesFree os) (size : os.size ≤ os'.size)
    (same : ∀ r < Intrinsic.count, objectAt os' r = objectAt os r) : NodesFree os' := by
  have nodes := same Intrinsic.nodes.ref (by decide)
  have objects := same Intrinsic.objects.ref (by decide)
  exact ⟨Nat.le_trans F.size size, nodes ▸ F.nodesParent, objects ▸ F.objectsParent, nodes ▸ objects ▸ F.free⟩

theorem NodesFree.lookUp {os : Array Obj} (F : NodesFree os) {r : Ref} {key : Name} (hk : key ∈ [numberKey, "style"])
    (own : (objectAt os r).own? key = none) (parent : (objectAt os r).parent = some Intrinsic.nodes.ref) :
    lookUp os (os.size + 1) r key = none := by
  have size := F.size
  obtain ⟨more, hm⟩ : ∃ more, os.size = more + 2 := ⟨os.size - 2, by rw [Intrinsic.count] at size; omega⟩
  obtain ⟨nodes, objects⟩ := F.free key hk
  rw [hm, lookUp_parent own parent, lookUp_parent nodes F.nodesParent, lookUp_top objects F.objectsParent]

theorem nodeProperties_ne : ∀ q ∈ nodeProperties, numberKey ≠ CodeUnits.ofString q.1 ∧
    ("style" : Name) ≠ CodeUnits.ofString q.1 := by
  decide +kernel

theorem nodeMethods_ne : ∀ f ∈ nodeMethods, numberKey ≠ CodeUnits.ofString f.1 ∧
    ("style" : Name) ≠ CodeUnits.ofString f.1 := by
  decide +kernel

/-- The maker of wrappers gives a new object the number of its node and a style. -/
theorem make_run {n : Nat} (made : Ref) (number : Value) (F : NodesFree w.realm.objects)
    (within : made < w.realm.objects.size) (other : Intrinsic.count ≤ made)
    (fresh : objectAt w.realm.objects made = .ofShape (some Intrinsic.nodes.ref) .plain) :
    ∃ os, (∀ l : Finding, (∀ os os', w.realm.Beside made os → w.realm.Beside made os' →
          l.Allows { w.realm with objects := os } { w.realm with objects := os' }) →
        ((kernel n).nodeFunction .make (.object made) [number]).act l c w =
          .ok .undefined { w with realm := { w.realm with objects := os } }) ∧
      w.realm.Beside made os ∧ IsOpenWrapper os made number := by
  let plain := Obj.isPlain_ofShape (some Intrinsic.nodes.ref)
  let numbered := (Obj.ofShape (some Intrinsic.nodes.ref) .plain).define numberKey (.plain number)
  let os₁ := w.realm.objects.modify made (·.define numberKey (.plain number))
  let os₂ := os₁.push (.ofShape (some Intrinsic.objects.ref) .plain)
  let os₃ := os₂.modify made (·.define "style" (.plain (.object os₁.size)))
  have size₁ : os₁.size = w.realm.objects.size := Array.size_modify
  have size₂ : os₂.size = w.realm.objects.size + 1 := by rw [Array.size_push, size₁]
  have size₃ : os₃.size = w.realm.objects.size + 1 := Array.size_modify.trans size₂
  have at₁ : objectAt os₁ made = numbered := by rw [objectAt_modify_self within, fresh]
  have at₂ : objectAt os₂ made = numbered := by rw [objectAt_push_of_lt (size₁ ▸ within), at₁]
  have beside : w.realm.Beside made w.realm.objects := ⟨Nat.le_refl _, fun _ _ _ => rfl⟩
  have beside₁ : w.realm.Beside made os₁ := ⟨by omega, fun r _ hne => objectAt_modify_ne hne⟩
  have beside₂ : w.realm.Beside made os₂ := ⟨by omega, fun r hr hne => by
    rw [objectAt_push_of_lt (size₁ ▸ hr), objectAt_modify_ne hne]⟩
  have beside₃ : w.realm.Beside made os₃ := ⟨by omega, fun r hr hne => by
    rw [objectAt_modify_ne hne, beside₂.same r hr hne]⟩
  have F₂ : NodesFree os₂ := F.of_same (by omega) fun r hr =>
    beside₂.same r (Nat.lt_of_lt_of_le hr F.size) (Nat.ne_of_lt (Nat.lt_of_lt_of_le hr other))
  have style : numbered.own? "style" = none := by
    rw [plain.own_define, if_neg (by decide), own_ofShape_plain]
  have parent : numbered.parent = some Intrinsic.nodes.ref := plain.parent_define _ _
  have at₃ : objectAt os₃ made = numbered.define "style" (.plain (.object os₁.size)) := by
    rw [objectAt_modify_self (size₂ ▸ Nat.lt_succ_of_lt within), at₂]
  have own (key : Name) : (objectAt os₃ made).own? key = if ("style" : Name) = key then some (.plain (.object os₁.size))
      else if numberKey = key then some (.plain number) else none := by
    rw [at₃, (plain.define _ _).own_define, plain.own_define, own_ofShape_plain]
  refine ⟨os₃, fun l allowed => ?_, beside₃, ⟨⟨size₃ ▸ Nat.lt_succ_of_lt within, ?_, ⟨true, true, true, ?_⟩,
    fun q hq => ?_⟩, fun f hf => ?_⟩⟩
  · have first : ((kernel n).putOf (.object made) numberKey number false).act l c w =
        .ok () { w with realm := { w.realm with objects := os₁ } } :=
      put_run (fresh ▸ plain) (fresh ▸ own_ofShape_plain _ _)
        (F.lookUp (by decide) (fresh ▸ own_ofShape_plain _ _) (fresh ▸ rfl)) (allowed _ _ beside beside₁)
    have second : ((kernel n).putOf (.object made) "style" (.object os₁.size) false).act l c
        { w with realm := { w.realm with objects := os₂ } } =
          .ok () { w with realm := { w.realm with objects := os₃ } } :=
      put_run (at₂.symm ▸ plain.define _ _) (at₂.symm ▸ style)
        (F₂.lookUp (by decide) (at₂.symm ▸ style) (at₂.symm ▸ parent)) (allowed _ _ beside₂ beside₃)
    rw [Kernel.nodeFunction]
    refine (bind_of_ok first _).trans ?_
    refine (bind_of_ok (allocate_run (w := { w with realm := { w.realm with objects := os₁ } }) _ _
      (allowed _ _ beside₁ beside₂)) _).trans ?_
    exact (bind_of_ok second _).trans rfl
  · rw [at₃, (plain.define _ _).parent_define, parent]
  · rw [own, if_neg (by decide), if_pos rfl]
    rfl
  · obtain ⟨notNumber, notStyle⟩ := nodeProperties_ne q hq
    rw [own, if_neg notStyle, if_neg notNumber]
  · obtain ⟨notNumber, notStyle⟩ := nodeMethods_ne f hf
    rw [own, if_neg notStyle, if_neg notNumber]

/-- The maker of wrappers makes the wrapper of a number, and changes nothing that was there. -/
theorem construct_run {n : Nat} (number : Value) (I : w.realm.Intact) (room : c.Room 1 4) :
    ∃ r os, (∀ l : Finding, l.AllowsWrappers w.realm →
        ((kernel (n + 2)).construct (.object Intrinsic.nodeMaker.ref) [number]).act l c w =
          .ok (.object r) { w with realm := { w.realm with objects := os } }) ∧
      w.realm.objects.size ≤ os.size ∧
      (∀ s < w.realm.objects.size, objectAt os s = objectAt w.realm.objects s) ∧ IsOpenWrapper os r number := by
  obtain ⟨a, b, e, parent⟩ := I.makerParent
  let made := w.realm.objects.size
  let os₁ := w.realm.objects.push (.ofShape (some Intrinsic.nodes.ref) .plain)
  have size₁ : os₁.size = w.realm.objects.size + 1 := Array.size_push _
  have F₁ : NodesFree os₁ := I.nodesFree.of_same (by omega) fun r hr =>
    objectAt_push_of_lt (Nat.lt_of_lt_of_le hr I.size)
  let w₁ : World := { w with realm := { w.realm with objects := os₁, iterations := 0 } }
  obtain ⟨os₂, made_run, beside, wrapper⟩ := make_run (c := c.inner 4) (w := w₁) (n := n + 1) made
    number F₁ (by rw [size₁]; exact Nat.lt_succ_self _) I.size objectAt_push_size
  have same {os : Array Obj} (beside : w₁.realm.Beside made os) :
      ∀ r < w.realm.objects.size, objectAt os r = objectAt w.realm.objects r := fun r hr => by
    rw [beside.same r (size₁ ▸ Nat.lt_succ_of_lt hr) (Nat.ne_of_lt hr)]
    exact objectAt_push_of_lt hr
  have size {os : Array Obj} (beside : w₁.realm.Beside made os) : w.realm.objects.size ≤ os.size :=
    Nat.le_trans (Nat.le_of_lt (size₁ ▸ Nat.lt_succ_self _)) beside.size
  refine ⟨made, os₂, fun l allows => ?_, size beside, same beside, wrapper⟩
  have later {os : Array Obj} (beside : w₁.realm.Beside made os) : w.realm.Later { w₁.realm with objects := os } :=
    ⟨size beside, fun r hr => .inl (same beside r hr), rfl, rfl⟩
  have called : ((kernel (n + 1)).callNative (.node .make) (.object made) [number]).act l c
      { w with realm := { w.realm with objects := os₁ } } =
        .ok .undefined { w with realm := { w.realm with objects := os₂ } } := by
    have step : (do (kernel (n + 1)).runNative (.node .make) (← looseThis (.object made)) [number] : Run Value).act l
        (c.inner 4) w₁ = .ok .undefined { w₁ with realm := { w₁.realm with objects := os₂ } } := by
      refine made_run l fun os os' beside beside' => allows.later _ _ (later beside) (later beside') fun i p own => ?_
      have cache : Intrinsic.cache.ref < w.realm.objects.size := Nat.lt_of_lt_of_le (by decide) I.size
      exact (same beside' _ cache).symm ▸ same beside _ cache ▸ own
    exact asCall_run 1 1 (w := { w with realm := { w.realm with objects := os₁ } }) room step allows.frames
  have allocated : l.Allows w.realm { w.realm with objects := os₁ } :=
    allows.later _ _ (.refl _) (.push _ _) fun i p own => by
      rw [objectAt_push_of_lt (lt_size_of_own own)]
      exact own
  change ((kernel (n + 1)).constructBy (.object Intrinsic.nodeMaker.ref) [number]).act l c w = _
  rw [Kernel.constructBy, bind_of_ok (object_run _), I.maker]
  change ((kernel (n + 1)).constructFresh Intrinsic.nodeMaker.ref
    (fun this => (kernel (n + 1)).callNative (.node .make) this [number])).act l c w = _
  rw [Kernel.constructFresh]
  refine (bind_of_ok (property_own parent) _).trans ?_
  refine (bind_of_ok (allocate_run _ _ allocated) _).trans ?_
  exact (bind_of_ok called _).trans rfl

/-! ### Wrapping -/

/-- A value is the wrapper that is kept for the node of a number. -/
def Wraps (i : Nat) (v : Value) (os : Array Obj) : Prop := ∃ r, v = .object r ∧ IsKept os r i

theorem Wraps.later {m m' : Realm} {i : Nat} {v : Value} (h : Wraps i v m.objects) (l : m.Later m') :
    Wraps i v m'.objects := by
  obtain ⟨r, eq, hr⟩ := h
  exact ⟨r, eq, hr.later l⟩

section Wrapping

variable {n i : Nat} {k : Kernel}

theorem nodeNumber_toFloat (h : i < 2 ^ 53) : nodeNumber? i.toFloat = some i := by
  rw [nodeNumber?, Number.isCount_toFloat h, Number.isInf_toFloat h, Number.toNat_toUInt64_toFloat h]
  rfl

theorem nodeNumber_minusOne : nodeNumber? (-1.0) = none := by decide +kernel

theorem below_zero : lessSimple (.number (-1.0)) (.number 0.0) = some true := by decide +kernel

theorem lessSimple_toFloat (h : i < 2 ^ 53) : lessSimple (.nat i) (.number 0.0) = some false := by
  change (if i.toFloat.isNaN || Float.isNaN 0.0 then none else some (decide (i.toFloat < 0.0))) = some false
  rw [Number.isNaN_toFloat h, decide_eq_false (Number.not_toFloat_lt_zero h),
    show Float.isNaN 0.0 = false by decide +kernel]
  rfl

theorem compare_run {l : Finding} {x y : Float} {less : Bool} (h : lessSimple (.number x) (.number y) = some less)
    (negate : Bool) : (k.compare (.number x) (.number y) false negate).act l c w =
      .ok (.bool (if negate then !less else less)) w := by
  refine (bind_of_ok (show _ = EStateM.Result.ok (Value.number x) w from rfl) _).trans ?_
  refine (bind_of_ok (show _ = EStateM.Result.ok (Value.number y) w from rfl) _).trans ?_
  simp only [Bool.false_eq_true, if_false, h]
  rfl

theorem less_run {l : Finding} (h : i < 2 ^ 53) :
    (k.binary .less (.nat i) (.number 0.0)).act l c w = .ok (.bool false) w :=
  compare_run (lessSimple_toFloat h) false

theorem cacheKey_run {l : Finding} (h : i < 2 ^ 53) : (k.cacheKey (.nat i)).act l c w = .ok (Obj.indexKey i) w := by
  have small : i < 9007199254740992 := by omega
  simp only [Kernel.cacheKey, Value.nat, nodeNumber_toFloat h, if_pos small]
  rfl

/-- Beside its own items the array that keeps wrappers has none. -/
theorem Realm.Intact.lookUp_cache {m : Realm} (I : m.Intact) {i : Nat}
    (own : (objectAt m.objects Intrinsic.cache.ref).own? (Obj.indexKey i) = none) :
    lookUp m.objects (m.objects.size + 1) Intrinsic.cache.ref (Obj.indexKey i) = none := by
  obtain ⟨more, hm⟩ := I.exists_size
  obtain ⟨arrays, objects⟩ := I.noItem i
  rw [hm, lookUp_parent own I.cache.store.parent, lookUp_parent arrays I.arraysParent, lookUp_top objects I.objectsParent]

theorem Obj.IsStore.takes {o : Obj} (h : o.IsStore) (key : Name) : o.takes key = true := by
  obtain ⟨items, length, array⟩ := h.shape
  rw [Obj.takes, h.isOpen, array, h.isLengthOpen]
  cases Number.index? key <;> rfl

theorem Obj.IsStore.define_index {o : Obj} (h : o.IsStore) (i : Nat) (v : Value) :
    (o.define (Obj.indexKey i) (.plain v)).IsStore := by
  obtain ⟨items, length, array⟩ := h.shape
  have removed : (o.removeProperty (Obj.indexKey i)).parent = o.parent ∧
      (o.removeProperty (Obj.indexKey i)).isOpen = o.isOpen ∧
      (o.removeProperty (Obj.indexKey i)).isLengthOpen = o.isLengthOpen := by
    rw [Obj.removeProperty]
    split <;> exact ⟨rfl, rfl, rfl⟩
  have set : (o.setProperty (Obj.indexKey i) (.plain v)).parent = o.parent ∧
      (o.setProperty (Obj.indexKey i) (.plain v)).isOpen = o.isOpen ∧
      (o.setProperty (Obj.indexKey i) (.plain v)).isLengthOpen = o.isLengthOpen := by
    rw [Obj.setProperty]
    split <;> exact ⟨rfl, rfl, rfl⟩
  rcases define_index_cases array i v with ⟨items', length', eq, -⟩ | ⟨length', eq, -⟩ <;> rw [eq]
  · exact ⟨removed.1.trans h.parent, ⟨_, _, rfl⟩, removed.2.1.trans h.isOpen, removed.2.2.trans h.isLengthOpen⟩
  · exact ⟨set.1.trans h.parent, ⟨_, _, rfl⟩, set.2.1.trans h.isOpen, set.2.2.trans h.isLengthOpen⟩

/-- A wrapper is kept under its number, where none was. -/
theorem restocks_define {os : Array Obj} {r : Ref} (store : (objectAt os Intrinsic.cache.ref).IsStore)
    (within : Intrinsic.cache.ref < os.size) (free : (objectAt os Intrinsic.cache.ref).own? (Obj.indexKey i) = none)
    (wrapper : IsOpenWrapper os r (.nat i)) :
    let os' := os.modify Intrinsic.cache.ref (·.define (Obj.indexKey i) (.plain (.object r)))
    Restocks os os' ∧ IsKept os' r i ∧ ∀ j, i ≠ j →
      (objectAt os' Intrinsic.cache.ref).own? (Obj.indexKey j) = (objectAt os Intrinsic.cache.ref).own? (Obj.indexKey j) := by
  intro os'
  obtain ⟨items, length, array⟩ := store.shape
  have other : r ≠ Intrinsic.cache.ref := by
    rintro rfl
    exact absurd (wrapper.parent.symm.trans store.parent) (by decide)
  have same : objectAt os' r = objectAt os r := objectAt_modify_ne other
  have own (j : Nat) : (objectAt os' Intrinsic.cache.ref).own? (Obj.indexKey j) =
      if i = j then some (.plain (.object r)) else (objectAt os Intrinsic.cache.ref).own? (Obj.indexKey j) := by
    rw [objectAt_modify_self within, own_define_index array]
  have kept : IsKept os' r i := by
    refine ⟨⟨⟨?_, same ▸ wrapper.parent, same ▸ wrapper.number, same ▸ wrapper.plain⟩, same ▸ wrapper.methods⟩, ?_⟩
    · exact Nat.lt_of_lt_of_le wrapper.within (Nat.le_of_eq Array.size_modify.symm)
    · rw [own, if_pos rfl]
  refine ⟨⟨store, ?_, fun j p before => ?_, fun j p after => ?_⟩, kept, fun j hj => ?_⟩
  · rw [objectAt_modify_self within]
    exact store.define_index i _
  · rw [own, if_neg fun same => ?_]
    · exact before
    · rw [← same, free] at before
      cases before
  · rw [own] at after
    split_ifs at after with same
    · subst same
      exact .inr ⟨r, (Option.some.inj after).symm, kept⟩
    · exact .inl after
  · rw [own, if_neg hj]

/-- An item of the array that keeps wrappers is set there, where it had none. -/
theorem put_cache_run {l : Finding} {v : Value} (I : w.realm.Intact)
    (free : (objectAt w.realm.objects Intrinsic.cache.ref).own? (Obj.indexKey i) = none)
    (allowed : l.Allows w.realm { w.realm with
      objects := w.realm.objects.modify Intrinsic.cache.ref (·.define (Obj.indexKey i) (.plain v)) }) :
    (k.put Intrinsic.cache.ref (Obj.indexKey i) v false).act l c w = .ok () { w with
      realm := { w.realm with
        objects := w.realm.objects.modify Intrinsic.cache.ref (·.define (Obj.indexKey i) (.plain v)) } } := by
  obtain ⟨items, length, array⟩ := I.cache.store.shape
  have link : (objectAt w.realm.objects Intrinsic.cache.ref).link? (Obj.indexKey i) = none := by rw [Obj.link?, array]
  exact put_new_run free (I.lookUp_cache free) (I.cache.store.takes _) link allowed

/-- The wrapper of a node is found, or made when it is first asked for, and kept from then on. -/
theorem wrapNumber_run (I : w.realm.Intact) (h : i < 2 ^ 53) (room : c.Room 1 4) :
    ∃ v w', (∀ l : Finding, l.AllowsWrappers w.realm → ((kernel (n + 2)).wrapNumber (.nat i)).act l c w = .ok v w') ∧
      w.realm.Later w'.realm ∧ Wraps i v w'.realm.objects ∧
      ∀ j, i ≠ j → (objectAt w'.realm.objects Intrinsic.cache.ref).own? (Obj.indexKey j) =
        (objectAt w.realm.objects Intrinsic.cache.ref).own? (Obj.indexKey j) := by
  have cache : Intrinsic.cache.ref < w.realm.objects.size := Nat.lt_of_lt_of_le (by decide) I.size
  cases own : (objectAt w.realm.objects Intrinsic.cache.ref).own? (Obj.indexKey i) with
  | some p =>
    obtain ⟨r, rfl, kept⟩ := I.cache.kept i p own
    refine ⟨.object r, w, fun l _ => ?_, .refl _, ⟨r, rfl, kept⟩, fun _ _ => rfl⟩
    rw [Kernel.wrapNumber, bind_of_ok (less_run h)]
    refine (bind_of_ok (cacheKey_run h) _).trans ?_
    exact (bind_of_ok (property_own own) _).trans rfl
  | none =>
    obtain ⟨r, os, construct, size, same, wrapper⟩ := construct_run (n := n) (.nat i) I room
    let m : Realm := { w.realm with objects := os }
    let os' := os.modify Intrinsic.cache.ref (·.define (Obj.indexKey i) (.plain (.object r)))
    have made : w.realm.Later m := .of_objects size same
    have I' := I.later made
    have free : (objectAt os Intrinsic.cache.ref).own? (Obj.indexKey i) = none := same _ cache ▸ own
    obtain ⟨restocks, kept, others⟩ := restocks_define I'.cache.store (Nat.lt_of_lt_of_le cache size) free wrapper
    have stored : m.Later { w.realm with objects := os' } := by
      refine ⟨Nat.le_of_eq Array.size_modify.symm, fun s _ => ?_, rfl, rfl⟩
      by_cases other : s = Intrinsic.cache.ref
      · exact .inr ⟨other, restocks⟩
      · exact .inl (objectAt_modify_ne other)
    refine ⟨.object r, { w with realm := { w.realm with objects := os' } }, fun l allows => ?_, made.trans stored,
      ⟨r, rfl, kept⟩, fun j hj => (others j hj).trans (congrArg (Obj.own? · _) (same _ cache))⟩
    have unknown : ((kernel (n + 2)).property Intrinsic.cache.ref (Obj.indexKey i)).act l c w = .ok .undefined w := by
      rw [Kernel.property, bind_of_ok (findProperty_run _ _), I.lookUp_cache own]
      rfl
    have put := put_cache_run (k := kernel (n + 2)) (c := c) (w := { w with realm := m }) I' free
      (allows.later _ _ made (made.trans stored) restocks.kept)
    rw [Kernel.wrapNumber, bind_of_ok (less_run h)]
    refine (bind_of_ok (cacheKey_run h) _).trans ?_
    refine (bind_of_ok unknown _).trans ?_
    refine (bind_of_ok (construct l allows) _).trans ?_
    refine (bind_of_ok (cacheKey_run h) _).trans ?_
    exact (bind_of_ok put _).trans rfl

theorem Yields.wrapNumber (I : w.realm.Intact) (h : i < 2 ^ 53) (room : c.Room 1 4) :
    Yields ((kernel (n + 2)).wrapNumber (.nat i)) c w (Wraps i) := by
  obtain ⟨v, w', run, later, wraps, -⟩ := wrapNumber_run (n := n) I h room
  exact ⟨v, w', run .own (Finding.allowsWrappers_own _), later, wraps⟩

/-- The function that gives wrappers gives the wrapper of a number. -/
theorem Yields.applyWrapper (more : List Value) (I : w.realm.Intact) (h : i < 2 ^ 53)
    (room : c.Room 2 (9 + 2 * more.length)) :
    Yields ((kernel (n + 3)).apply (.object Intrinsic.wrapper.ref) .undefined (.nat i :: more)) c w (Wraps i) := by
  refine .apply 2 (.object Intrinsic.global.ref) I.wrapper rfl (fun _ => rfl)
    (room.mono (by omega) (by rw [List.length_cons]; omega)) ?_
  exact .wrapNumber I.framed h (room.inner (by omega) (by rw [List.length_cons]; omega))

theorem Yields.wrap (number : Run Value) (I : w.realm.Intact) (h : i < 2 ^ 53) (room : c.Room 2 9)
    (hn : holding 2 number c w = .ok (.nat i) w) : Yields ((kernel (n + 3)).wrap number) c w (Wraps i) := by
  rw [Kernel.wrap]
  exact .of_bind hn (.applyWrapper [] I h (room.mono (Nat.le_refl _) (Nat.le_refl _)))

end Wrapping

/-! ### Arrays -/

/-- An array of its own making, with these items. -/
structure IsArray (os : Array Obj) (r : Ref) (items : List Value) : Prop where
  within : r < os.size
  apart : r ≠ Intrinsic.cache.ref
  object : objectAt os r = .ofShape (some Intrinsic.arrays.ref) (.array (items.map some).toArray items.length)

/-- A value is an array of values that stand in some relation to the members of a list. -/
def IsArrayOf (R : α → Value → Array Obj → Prop) (as : List α) (v : Value) (os : Array Obj) : Prop :=
  ∃ r vs, v = .object r ∧ IsArray os r vs ∧ List.Forall₂ (fun a v => R a v os) as vs

theorem IsArray.later {m m' : Realm} {r : Ref} {items : List Value} (h : IsArray m.objects r items) (l : m.Later m') :
    IsArray m'.objects r items :=
  ⟨Nat.lt_of_lt_of_le h.within l.size, h.apart, (l.same h.within h.apart).trans h.object⟩

theorem Yields.makeArray (I : w.realm.Intact) (items : List Value) :
    Yields (makeArray items) c w fun v os => ∃ r, v = .object r ∧ IsArray os r items := by
  have cache : Intrinsic.cache.ref < w.realm.objects.size := Nat.lt_of_lt_of_le (by decide) I.size
  refine ⟨.object w.realm.objects.size, _, rfl, .push _ _, _, rfl, ?_, Nat.ne_of_gt cache, ?_⟩
  · rw [Array.size_push]
    exact Nat.lt_succ_self _
  · rw [objectAt_push_size, List.size_toArray, List.length_map]

section Arrays

variable {n : Nat} {k : Kernel} {r g : Ref} {items : List Value}

theorem IsArray.lengthOf_run (h : IsArray w.realm.objects r items) : k.lengthOf r c w = .ok items.length w := by
  rw [Kernel.lengthOf, bind_of_ok (object_run r), h.object]
  rfl

theorem IsArray.read_run (h : IsArray w.realm.objects r items) {i : Nat} {v : Value} (hi : items[i]? = some v) :
    k.item r i c w = .ok v w := by
  have there : ((items.map some).toArray[i]?).join = some v := by
    rw [List.getElem?_toArray, List.getElem?_map, hi]
    rfl
  rw [Kernel.item, bind_of_ok (object_run r), h.object]
  simp only [Obj.ofShape, there]
  rfl

theorem IsArray.readIndex_run (h : IsArray w.realm.objects r items) {i : Nat} {v : Value} (few : i < 4294967295)
    (hi : items[i]? = some v) : k.readIndex (.object r) (.nat i) c w = .ok v w := by
  simp only [Kernel.readIndex, Value.nat, Number.indexOfFloat_toFloat_of_lt few]
  exact h.read_run hi

theorem IsArray.length_run (h : IsArray w.realm.objects r items) :
    k.propertyOf (.object r) lengthKey c w = .ok (.nat items.length) w := by
  refine propertyOf_own (a := true) (b := false) (e := false) ?_
  rw [h.object]
  rfl

theorem IsArray.item_run (h : IsArray w.realm.objects r items) {i : Nat} {v : Value} (hi : items[i]? = some v) :
    k.item? r i c w = .ok (some v) w := by
  have there : ((items.map some).toArray[i]?).join = some v := by
    rw [List.getElem?_toArray, List.getElem?_map, hi]
    rfl
  have has : hasItem r i c w = .ok true w := by
    rw [hasItem, bind_of_ok (object_run r), h.object]
    simp only [Obj.ofShape, there]
    rfl
  rw [Kernel.item?, bind_of_ok has]
  exact (bind_of_ok (h.read_run hi) _).trans rfl

theorem arrayMethods_ne : ∀ q ∈ arrayMethods, Number.index? (CodeUnits.ofString q.1) = none ∧
    (CodeUnits.ofString q.1 == lengthKey) = false := by
  decide +kernel

/-- An array has the methods of arrays, but no property of its own besides its items and its length. -/
theorem Yields.invokeArray {P : Value → Array Obj → Prop} {q : String × Nat × ArrayMethod} {args : List Value}
    (hq : q ∈ arrayMethods) (I : w.realm.Intact) (h : IsArray w.realm.objects r items) (room : c.Room 1 1)
    (does : Yields (q.2.2.run (kernel n) (.object r) args) c w P) :
    Yields ((kernel (n + 1)).invoke (.object r) (CodeUnits.ofString q.1) args) c w P := by
  have own : (objectAt w.realm.objects r).own? (CodeUnits.ofString q.1) = none := by
    obtain ⟨noIndex, noLength⟩ := arrayMethods_ne q hq
    rw [h.object]
    simp only [Obj.own?, Obj.inherent?, Obj.ofShape, noIndex, noLength]
    exact Std.HashMap.getElem?_empty
  obtain ⟨g, a, b, e, method, hg⟩ := I.arrays q hq
  have found : lookUp w.realm.objects (w.realm.objects.size + 1) r (CodeUnits.ofString q.1) =
      some (.data (.object g) a b e) := by
    obtain ⟨more, hm⟩ := I.exists_size
    rw [hm, lookUp_parent own (by rw [h.object]; rfl), lookUp_own method]
  have read : (kernel (n + 1)).propertyOf (.object r) (CodeUnits.ofString q.1) c w = .ok (.object g) w := by
    rw [propertyOf_run, found]
    rfl
  exact .of_bind read (.of_run_eq (apply_run hg rfl room) does)

theorem callback_run {f : Native} (hg : IsFunction w.realm.objects g f) (fault : String) :
    callback [.object g] fault c w = .ok (.object g) w := by
  have callable : isCallable (.object g) c w = .ok true w := by
    obtain ⟨isMaker, shape⟩ := hg
    rw [isCallable, bind_of_ok (object_run _), Obj.isCallable, shape]
    rfl
  exact (bind_of_ok callable _).trans rfl

end Arrays

/-! ### What is given for the items of an array -/

/-- What holds of the members of a list by their places holds of the members. -/
theorem forall₂_of_range {as : List α} {bs : List β} {R : α → β → Prop}
    (h : List.Forall₂ (fun j b => ∀ a, as[j]? = some a → R a b) (List.range as.length) bs) : List.Forall₂ R as bs := by
  obtain ⟨length, each⟩ := List.forall₂_iff_get.mp h
  rw [List.length_range] at length
  refine List.forall₂_iff_get.mpr ⟨length, fun j ha hb => ?_⟩
  have there := each j (by rwa [List.length_range]) hb
  rw [List.get_eq_getElem, List.getElem_range] at there
  exact there _ (List.getElem?_eq_getElem ha)

/-- Steps for each member of a list go well if each does. -/
theorem Yields.mapM {as : List α} {f : α → Run β} {R : α → β → Array Obj → Prop}
    (keeps : ∀ a b {m m' : Realm}, R a b m.objects → m.Later m' → R a b m'.objects)
    (h : ∀ a ∈ as, ∀ w', w.realm.Later w'.realm → Yields (f a) c w' (R a)) :
    Yields (as.mapM f) c w fun bs os => List.Forall₂ (fun a b => R a b os) as bs := by
  induction as generalizing w with
  | nil => exact .of_ok rfl .nil
  | cons a as ih =>
    rw [List.mapM_cons]
    refine (h a List.mem_cons_self w (.refl _)).bind fun b w₁ l₁ hb => ?_
    have rest := ih (w := w₁) fun a' ha' w' l => h a' (List.mem_cons_of_mem a ha') w' (l₁.trans l)
    obtain ⟨bs, w₂, eq, l₂, hbs⟩ := rest
    exact ⟨b :: bs, w₂, (bind_of_ok eq _).trans rfl, l₂, .cons (keeps a b hb l₂) hbs⟩

section Each

variable {k : Kernel} {r g : Ref} {f : Native} {items : List Value}

/-- Values that are all there, without what says so. -/
theorem exists_somes {R : α → Value → Prop} {as : List α} {vs : List (Option Value)}
    (h : List.Forall₂ (fun a v => ∃ x, v = some x ∧ R a x) as vs) :
    ∃ xs : List Value, vs = xs.map some ∧ List.Forall₂ R as xs := by
  induction h with
  | nil => exact ⟨[], rfl, .nil⟩
  | cons hv _ ih =>
    obtain ⟨x, rfl, hx⟩ := hv
    obtain ⟨xs, rfl, hxs⟩ := ih
    exact ⟨x :: xs, rfl, .cons hx hxs⟩

/-- The method that maps arrays makes an array of what a function gives for each item. -/
theorem Yields.mapArray {R : α → Value → Array Obj → Prop} {as : List α}
    (keeps : ∀ a v {m m' : Realm}, R a v m.objects → m.Later m' → R a v m'.objects)
    (I : w.realm.Intact) (h : IsArray w.realm.objects r items) (hg : IsFunction w.realm.objects g f)
    (length : as.length = items.length)
    (each : ∀ j a v, as[j]? = some a → items[j]? = some v → ∀ w' : World, w.realm.Later w'.realm →
      Yields (k.apply (.object g) .undefined [v, .nat j, .object r]) c w' (R a)) :
    Yields (ArrayMethod.run k .map (.object r) [.object g]) c w (IsArrayOf R as) := by
  refine .of_bind (a := r) rfl ?_
  refine .of_bind (callback_run hg _) ?_
  have given : Yields (k.mapped (.object g) .undefined r) c w fun vs os =>
      List.Forall₂ (fun a v => ∃ x, v = some x ∧ R a x os) as vs := by
    rw [Kernel.mapped]
    refine .of_bind h.lengthOf_run ?_
    rw [← length]
    refine (Yields.mapM (R := fun j v os => ∀ a, as[j]? = some a → ∃ x, v = some x ∧ R a x os) ?_ ?_).mono
      fun vs os => forall₂_of_range
    · intro j v m m' hv l a ha
      obtain ⟨x, eq, hx⟩ := hv a ha
      exact ⟨x, eq, keeps a x hx l⟩
    · intro j hj w₁ l₁
      have lt : j < as.length := List.mem_range.mp hj
      have ha : as[j]? = some as[j] := List.getElem?_eq_getElem lt
      have hv : items[j]? = some items[j] := List.getElem?_eq_getElem (length ▸ lt)
      refine .of_bind ((h.later l₁).item_run hv) ?_
      refine (each j _ _ ha hv w₁ l₁).bind fun x w₂ _ hx => .of_ok rfl fun a same => ?_
      obtain rfl := Option.some.inj (ha.symm.trans same)
      exact ⟨x, rfl, hx⟩
  refine given.bind fun vs w₁ l₁ hvs => ?_
  obtain ⟨xs, rfl, hxs⟩ := exists_somes hvs
  obtain ⟨v, w₂, eq, l₂, s, rfl, hs⟩ := Yields.makeArray (c := c) (I.later l₁) xs
  exact ⟨.object s, w₂, eq, l₂, s, xs, rfl, hs, hxs.imp fun a v hv => keeps a v hv l₂⟩

end Each

section Wrapping

variable {n : Nat} {r : Ref} {is : List Nat}

/-- Some values are the wrappers of the nodes of some numbers. -/
def WrapsAll (is : List Nat) (vs : List Value) (os : Array Obj) : Prop := List.Forall₂ (fun i v => Wraps i v os) is vs

theorem WrapsAll.later {vs : List Value} {m m' : Realm} (h : WrapsAll is vs m.objects) (l : m.Later m') :
    WrapsAll is vs m'.objects :=
  h.imp fun _ _ hv => hv.later l

theorem WrapsAll.exists_getElem? {vs : List Value} {os : Array Obj} (h : WrapsAll is vs os) {m i : Nat}
    (hi : is[m]? = some i) : ∃ x, vs[m]? = some x ∧ Wraps i x os := by
  obtain ⟨length, each⟩ := List.forall₂_iff_get.mp h
  obtain ⟨lt, rfl⟩ := List.getElem?_eq_some_iff.mp hi
  have lt' : m < vs.length := length ▸ lt
  exact ⟨vs[m], List.getElem?_eq_getElem lt', each m lt lt'⟩

/-- The method that maps arrays, given the function that gives wrappers, gives the wrappers of numbers. -/
theorem Yields.mapWrapper (I : w.realm.Intact) (h : IsArray w.realm.objects r (is.map .nat))
    (small : ∀ i ∈ is, i < 2 ^ 53)
    (room : c.Room 2 13) :
    Yields (ArrayMethod.run (kernel (n + 3)) .map (.object r) [.object Intrinsic.wrapper.ref]) c w
      (IsArrayOf Wraps is) := by
  refine .mapArray (fun _ _ _ _ h l => h.later l) I h I.wrapper (List.length_map _).symm fun j i v hi hv w₁ l₁ => ?_
  rw [List.getElem?_map, hi] at hv
  obtain rfl := Option.some.inj hv
  exact .applyWrapper [.nat j, .object r] (I.later l₁) (small i (List.mem_of_getElem? hi)) room

/-- The wrappers of numbers that come as an array. -/
theorem Yields.wrapAll (I : w.realm.Intact) (small : ∀ i ∈ is, i < 2 ^ 53) (room : c.Room 3 17) {numbers : Run Value}
    (hn : holding 2 numbers c w = Script.makeArray (is.map .nat) c w) :
    Yields ((kernel (n + 4)).wrapAll numbers) c w (IsArrayOf Wraps is) := by
  rw [Kernel.wrapAll]
  refine Yields.bind (.of_run_eq hn (.makeArray I _)) fun v w₁ l₁ hv => ?_
  obtain ⟨r, rfl, hr⟩ := hv
  refine .asCall (room.mono (by omega) (by omega)) ?_
  have I₁ := (I.later l₁).framed
  have room₁ : (c.inner (2 + 1 + 1)).Room 2 13 := room.inner (by omega) (by omega)
  exact .invokeArray (q := ("map", 1, .map)) (by decide) I₁ hr (room₁.mono (by omega) (by omega))
    (.mapWrapper I₁ hr small room₁)

end Wrapping

end Pagewalk.Script
