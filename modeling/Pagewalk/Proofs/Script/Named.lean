import Pagewalk.Proofs.Script.Answers
import Pagewalk.Proofs.Text.Encodings

/-!
# Children by name

A script finds the head and the body of a document in the wrappers of the children of the root: it keeps those whose
names stand in a list, and takes the first.
-/

namespace Pagewalk.Script

open Text

variable {α β : Type} {c : Context} {w : World}

section Named

variable {d : Document} {n i : Nat} {k : Kernel} {r s g : Ref} {items vs : List Value} {names : List String}
  {is : List Nat}

theorem shape_makerObject (f : Native) (name : String) (arity : Nat) (parent : Ref) :
    (makerObject (nativeObject f name arity true) parent).shape = .native f true := by
  rw [makerObject, shape_setProperty, nativeObject, functionObject, shape_setProperty, shape_setProperty]
  rfl

/-- A built-in function with a frame that is made. -/
theorem Yields.makeNative {f : Native} {registers : Nat} (framed : f.registers? = some registers) (name : String)
    (arity : Nat) (plain : ∀ isMaker, (Shape.native f isMaker).settles? = none) :
    Yields (makeNative f name arity plain) c w fun v os => ∃ g, v = .object g ∧ IsFunction os g f := by
  let parent := w.realm.objects.size
  let os₁ := w.realm.objects.push (.ofShape (some Intrinsic.objects.ref) .plain)
  let os₂ := os₁.push (makerObject (nativeObject f name arity true) parent)
  let os₃ := os₂.modify parent (·.setProperty constructorKey (.hidden (.object os₁.size)))
  have size₁ : os₁.size = parent + 1 := Array.size_push _
  have size₂ : os₂.size = parent + 2 := by rw [Array.size_push, size₁]
  have made : Script.makeNative f name arity plain c w = .ok (.object os₁.size)
      { w with realm := { w.realm with objects := os₃ } } := by
    rw [Script.makeNative, framed]
    rfl
  refine ⟨.object os₁.size, _, made, .of_objects ?_ fun r hr => ?_, os₁.size, rfl, true, ?_⟩
  · rw [Array.size_modify, size₂]
    omega
  · rw [objectAt_modify_ne (Nat.ne_of_lt hr), objectAt_push_of_lt (size₁ ▸ Nat.lt_succ_of_lt hr),
      objectAt_push_of_lt hr]
  · change (objectAt os₃ os₁.size).shape = _
    rw [objectAt_modify_ne (by rw [size₁]; exact Nat.succ_ne_self _), objectAt_push_size, shape_makerObject]

theorem filterMapM_run {as : List α} {f : α → Run (Option β)} {g : α → Option β}
    (h : ∀ a ∈ as, f a c w = .ok (g a) w) : as.filterMapM f c w = .ok (as.filterMap g) w := by
  induction as with
  | nil => rfl
  | cons a as ih =>
    rw [List.filterMapM_cons, bind_of_ok (h a List.mem_cons_self), List.filterMap_cons]
    have rest := ih fun b hb => h b (List.mem_cons_of_mem a hb)
    cases g a with
    | none => exact rest
    | some b => exact bind_of_ok rest _

theorem IsArray.present_run (h : IsArray w.realm.objects r items) :
    k.present r c w = .ok ((List.range items.length).filterMap fun i => items[i]?.map (i, ·)) w := by
  rw [Kernel.present, bind_of_ok h.lengthOf_run]
  refine filterMapM_run fun i hi => ?_
  have lt : i < items.length := List.mem_range.mp hi
  have there : items[i]? = some items[i] := List.getElem?_eq_getElem lt
  rw [bind_of_ok (h.item_run there), there]
  rfl

theorem isPlace_run (h : i < 2 ^ 53) : k.isPlace (.nat i) c w = .ok true w :=
  bind_of_ok (compare_run (lessSimple_toFloat h) true) _

theorem isPlace_none_run : k.isPlace (.number (-1.0)) c w = .ok false w := bind_of_ok (compare_run below_zero true) _

theorem strictEq_string (s t : String) : (Value.string s).strictEq (.string t) = (s == t) := by
  rw [Bool.eq_iff_iff, beq_iff_eq]
  exact beq_iff_eq.trans CodeUnits.ofString_injective.eq_iff

theorem mem_present {q : Nat × Value} :
    q ∈ (List.range items.length).filterMap (fun i => items[i]?.map (i, ·)) ↔ items[q.1]? = some q.2 := by
  rw [List.mem_filterMap]
  constructor
  · rintro ⟨i, -, there⟩
    obtain ⟨v, hv, rfl⟩ := Option.map_eq_some_iff.mp there
    exact hv
  · intro there
    refine ⟨q.1, List.mem_range.mpr (List.getElem?_eq_some_iff.mp there).1, ?_⟩
    rw [there]
    rfl

/-- An array of texts gives a place for a text if it is one of them. -/
theorem indexOf_run (h : IsArray w.realm.objects r (names.map .string)) (few : names.length < 2 ^ 53) (s : String) :
    ∃ v, ArrayMethod.run k .indexOf (.object r) [.string s] c w = .ok v w ∧
      ∀ {k : Kernel} {c : Context} {w : World}, k.isPlace v c w = .ok (names.contains s) w := by
  let all := (List.range (names.map Value.string).length).filterMap fun i => (names.map Value.string)[i]?.map (i, ·)
  let found := (all.filter fun q => 0 ≤ q.1).find? fun q => q.2.strictEq (.string s)
  have start : k.searchStart [.string s] (names.map Value.string).length c w = .ok 0 w := by
    have search : k.searchStart [.string s] (names.map Value.string).length c w =
        .ok (Number.relativePlace Number.nan (names.map Value.string).length) w := rfl
    rw [search, List.length_map, Number.relativePlace_nan few]
  have answer : ArrayMethod.run k .indexOf (.object r) [.string s] c w =
      .ok (found.elim (.number (-1.0)) fun q => .nat q.1) w := by
    refine (bind_of_ok (show _ = EStateM.Result.ok r w from rfl) _).trans ?_
    refine (bind_of_ok h.lengthOf_run _).trans ?_
    refine (bind_of_ok start _).trans ?_
    exact (bind_of_ok h.present_run _).trans rfl
  refine ⟨_, answer, fun {k c w} => ?_⟩
  have member (q : Nat × Value) : q ∈ all ↔ ∃ t, names[q.1]? = some t ∧ .string t = q.2 := by
    rw [mem_present, List.getElem?_map, Option.map_eq_some_iff]
  cases hf : found with
  | none =>
    have missing : names.contains s = false := by
      rw [List.contains_eq_mem, decide_eq_false_iff_not]
      intro hs
      obtain ⟨i, hi⟩ := List.mem_iff_getElem?.mp hs
      have inAll : (i, Value.string s) ∈ all.filter fun q => 0 ≤ q.1 :=
        List.mem_filter.mpr ⟨(member _).mpr ⟨s, hi, rfl⟩, decide_eq_true (Nat.zero_le i)⟩
      have := List.find?_eq_none.mp hf _ inAll
      rw [strictEq_string, beq_self_eq_true] at this
      exact this rfl
    rw [missing]
    exact isPlace_none_run
  | some q =>
    obtain ⟨t, ht, eq⟩ := (member q).mp (List.mem_filter.mp (List.mem_of_find?_eq_some hf)).1
    have same := List.find?_some hf
    rw [← eq, strictEq_string, beq_iff_eq] at same
    subst same
    have present : names.contains t = true := by
      rw [List.contains_eq_mem, decide_eq_true_iff]
      exact List.mem_of_getElem? ht
    rw [present]
    exact isPlace_run (Nat.lt_trans (List.getElem?_eq_some_iff.mp ht).1 few)

/-- The function that tells elements with certain names tells whether an element has one of them. -/
theorem Yields.applyHasName (page : c.page = d.numbered) (I : w.realm.Intact) (hr : IsWrapper w.realm.objects r (.nat i))
    (h : i < 2 ^ 53) {e : Element} (he : d.numbered.element i = .ok e)
    (hs : IsArray w.realm.objects s (names.map .string)) (few : names.length < 2 ^ 53)
    (hg : IsFunction w.realm.objects g (.node (.hasName (.object s)))) (more : List Value)
    (room : c.Room 3 (10 + more.length)) :
    Yields ((kernel (n + 3)).apply (.object g) .undefined (.object r :: more)) c w
      fun v _ => v = .bool (names.contains e.localName) := by
  refine .apply 1 (.object Intrinsic.global.ref) hg rfl (fun _ => rfl)
    (room.mono (by omega) (by rw [List.length_cons]; omega)) ?_
  have room' : (c.inner (2 + (Value.object r :: more).length + 1)).Room 2 6 :=
    room.inner (by omega) (by rw [List.length_cons]; omega)
  change Yields (do return .bool (← (kernel (n + 2)).isPlace (← (kernel (n + 2)).invoke (.object s) "indexOf"
    [← (kernel (n + 2)).propertyOf (.object r) "localName"])) : Run Value) _ _ _
  refine (Yields.localName (c := c.inner (2 + (Value.object r :: more).length + 1)) page I.framed hr h he
    (room'.mono (by omega) (by omega))).bind fun name w₁ l₁ hname => ?_
  subst hname
  have hs₁ : IsArray w₁.realm.objects s (names.map .string) := hs.later (m := w.framed.realm) l₁
  obtain ⟨place, found, isPlace⟩ := indexOf_run (k := kernel (n + 1))
    (c := c.inner (2 + (Value.object r :: more).length + 1)) hs₁ few e.localName
  refine Yields.bind (P := fun v os => v = place) (.invokeArray (q := ("indexOf", 1, .indexOf)) (by decide)
    (I.framed.later l₁) hs₁ (room'.mono (by omega) (by omega)) (.of_ok found rfl)) fun v w₂ l₂ hv => ?_
  subst hv
  exact .of_bind isPlace (.of_ok rfl rfl)

/-- Steps for each item of a list that keep something of it go well if each does. -/
theorem Yields.filterMapM {as : List α} {f : α → Run (Option β)} (kept : α → Option β)
    (h : ∀ a ∈ as, ∀ w', w.realm.Later w'.realm → Yields (f a) c w' fun b _ => b = kept a) :
    Yields (as.filterMapM f) c w fun bs _ => bs = as.filterMap kept := by
  induction as generalizing w with
  | nil => exact .of_ok rfl rfl
  | cons a as ih =>
    rw [List.filterMapM_cons]
    refine (h a List.mem_cons_self w (.refl _)).bind fun b w₁ l₁ hb => ?_
    subst hb
    have rest := ih (w := w₁) fun a' ha' w' l => h a' (List.mem_cons_of_mem a ha') w' (l₁.trans l)
    rw [List.filterMap_cons]
    cases kept a with
    | none => exact rest
    | some b => exact rest.bind fun bs _ _ hbs => .of_ok rfl (congrArg (b :: ·) hbs)

/-- The method that filters arrays keeps the items at whose places a function says so. -/
theorem Yields.filterArray {f : Native} {p : Nat → Bool} (I : w.realm.Intact) (h : IsArray w.realm.objects r items)
    (hg : IsFunction w.realm.objects g f)
    (each : ∀ j v, items[j]? = some v → ∀ w' : World, w.realm.Later w'.realm →
      Yields (k.apply (.object g) .undefined [v, .nat j, .object r]) c w' fun b _ => b = .bool (p j)) :
    Yields (ArrayMethod.run k .filter (.object r) [.object g]) c w fun v os => ∃ s, v = .object s ∧
      IsArray os s ((List.range items.length).filterMap fun j => if p j then items[j]? else none) := by
  refine .of_bind (a := r) rfl ?_
  refine .of_bind (callback_run hg _) ?_
  refine .of_bind h.lengthOf_run ?_
  refine (Yields.filterMapM (fun j => if p j then items[j]? else none) fun j hj w₁ l₁ => ?_).bind
    fun kept w₁ l₁ hkept => hkept ▸ .makeArray (I.later l₁) _
  have lt : j < items.length := List.mem_range.mp hj
  have hv : items[j]? = some items[j] := List.getElem?_eq_getElem lt
  refine .of_bind ((h.later l₁).item_run hv) ?_
  refine (each j _ hv w₁ l₁).bind fun b w₂ _ hb => .of_ok rfl ?_
  rw [hb, hv]
  rfl

/-- What is kept of the items of a list by their places. -/
theorem filterMap_range_getElem (as : List α) (kept : α → Option β) :
    ((List.range as.length).filterMap fun j => as[j]?.bind kept) = as.filterMap kept := by
  have places : (List.range as.length).map (as[·]?) = as.map some :=
    List.ext_getElem (by simp) fun j hj _ => by simp
  calc ((List.range as.length).filterMap fun j => as[j]?.bind kept)
      = ((List.range as.length).map (as[·]?)).filterMap (·.bind kept) := by rw [List.filterMap_map]; rfl
    _ = as.filterMap kept := by rw [places, List.filterMap_map]; rfl

theorem WrapsAll.filter {os : Array Obj} (p : Nat → Bool) (h : WrapsAll is vs os) :
    WrapsAll (is.filter p) ((is.zip vs).filterMap fun q => if p q.1 then some q.2 else none) os := by
  induction h with
  | nil => exact .nil
  | @cons i v is vs hv _ ih =>
    rw [List.zip_cons_cons, List.filterMap_cons, List.filter_cons]
    cases p i with
    | false => exact ih
    | true => exact .cons hv ih

/-- Of an array of wrappers those are kept whose elements have one of some names. -/
theorem Yields.filterHasName (page : c.page = d.numbered) (I : w.realm.Intact)
    (hr : IsArray w.realm.objects r vs) (wraps : WrapsAll is vs w.realm.objects) (small : ∀ j ∈ is, j < 2 ^ 53)
    (p : Nat → Bool) (hp : ∀ j ∈ is, ∃ e, d.numbered.element j = .ok e ∧ p j = names.contains e.localName)
    (hs : IsArray w.realm.objects s (names.map .string)) (few : names.length < 2 ^ 53)
    (hg : IsFunction w.realm.objects g (.node (.hasName (.object s)))) (room : c.Room 3 12) :
    Yields (ArrayMethod.run (kernel (n + 3)) .filter (.object r) [.object g]) c w (IsArrayOf Wraps (is.filter p)) := by
  have length := wraps.length_eq
  obtain ⟨v, w', eq, l, t, rfl, ht⟩ := Yields.filterArray (p := fun j => is[j]?.any p) I hr hg fun j v hv w₁ l₁ => by
    obtain ⟨lt, rfl⟩ := List.getElem?_eq_some_iff.mp hv
    have hi : is[j]? = some is[j] := List.getElem?_eq_getElem (length ▸ lt)
    have mem : is[j] ∈ is := List.mem_of_getElem? hi
    obtain ⟨u, hu, hw⟩ : Wraps is[j] vs[j] w₁.realm.objects :=
      ((List.forall₂_iff_get.mp wraps).2 j (length ▸ lt) lt).later l₁
    obtain ⟨e, he, hpe⟩ := hp _ mem
    rw [hu, hi, Option.any_some, hpe]
    exact .applyHasName (n := n) page (I.later l₁) hw.toIsWrapper (small _ mem) he (hs.later l₁) few (hg.later l₁)
      [.nat j, .object r] room
  have chosen : ((List.range vs.length).filterMap fun j => if is[j]?.any p then vs[j]? else none) =
      (is.zip vs).filterMap fun q => if p q.1 then some q.2 else none := by
    rw [← filterMap_range_getElem (is.zip vs), List.length_zip, length, Nat.min_self]
    refine List.filterMap_congr fun j hj => ?_
    have lt : j < vs.length := List.mem_range.mp hj
    have hi : is[j]? = some is[j] := List.getElem?_eq_getElem (length ▸ lt)
    have hv : vs[j]? = some vs[j] := List.getElem?_eq_getElem lt
    have hz : (is.zip vs)[j]? = some (is[j], vs[j]) := by
      rw [List.getElem?_zip_eq_some]
      exact ⟨hi, hv⟩
    rw [hz, hi, hv]
    rfl
  exact ⟨.object t, w', eq, l, t, _, rfl, chosen ▸ ht, (wraps.later l).filter p⟩

theorem firstOf_run (I : w.realm.Intact) (h : IsArray w.realm.objects r vs) (truthy : ∀ v ∈ vs, v.isTruthy) :
    k.firstOf (.object r) c w = .ok (vs.head?.getD .null) w := by
  have read : k.readIndex (.object r) (.number 0.0) c w = k.item r 0 c w := by
    have index : Number.indexOfFloat? 0.0 = some 0 := by decide +kernel
    simp only [Kernel.readIndex, index]
  cases vs with
  | cons v vs =>
    have item : k.item r 0 c w = .ok v w := by
      rw [Kernel.item, bind_of_ok (object_run r), h.object]
      rfl
    rw [Kernel.firstOf, bind_of_ok (read.trans item), Value.orElse, truthy v List.mem_cons_self]
    rfl
  | nil =>
    have own : (objectAt w.realm.objects r).own? (Obj.indexKey 0) = none := by
      rw [h.object]
      have index : Number.index? (Obj.indexKey 0) = some 0 := by decide +kernel
      simp only [Obj.own?, Obj.inherent?, Obj.ofShape, index]
      exact Std.HashMap.getElem?_empty
    have found : lookUp w.realm.objects (w.realm.objects.size + 1) r (Obj.indexKey 0) = none := by
      obtain ⟨more, hm⟩ := I.exists_size
      obtain ⟨arrays, objects⟩ := I.noItem 0
      rw [hm, lookUp_parent own (by rw [h.object]; rfl), lookUp_parent arrays I.arraysParent,
        lookUp_top objects I.objectsParent]
    have property : k.property r (Obj.indexKey 0) c w = .ok .undefined w := by
      rw [Kernel.property, bind_of_ok (findProperty_run r _), found]
      rfl
    have item : k.item r 0 c w = .ok .undefined w := by
      rw [Kernel.item, bind_of_ok (object_run r), h.object]
      exact property
    rw [Kernel.firstOf, bind_of_ok (read.trans item)]
    rfl

/-- No array has anything at the place in front of its first item. -/
structure Realm.NoneInFront (m : Realm) : Prop where
  arrays : (objectAt m.objects Intrinsic.arrays.ref).own? "-1" = none
  objects : (objectAt m.objects Intrinsic.objects.ref).own? "-1" = none

theorem Realm.NoneInFront.later {m m' : Realm} (N : m.NoneInFront) (I : m.Intact) (l : m.Later m') : m'.NoneInFront := by
  have within (o : Intrinsic) (ho : o.ref < Intrinsic.count) : o.ref < m.objects.size := Nat.lt_of_lt_of_le ho I.size
  have arrays := l.same (within .arrays (by decide)) (by decide)
  have objects := l.same (within .objects (by decide)) (by decide)
  exact ⟨arrays ▸ N.arrays, objects ▸ N.objects⟩

theorem own_minusOne (parent : Option Ref) (items : Array (Option Value)) (length : Nat) :
    (Obj.ofShape parent (.array items length)).own? "-1" = none := by
  have index : Number.index? "-1" = none := by decide +kernel
  have other : (("-1" : Name) == lengthKey) = false := by decide +kernel
  simp only [Obj.own?, Obj.inherent?, Obj.ofShape, index, other]
  exact Std.HashMap.getElem?_empty

theorem lastOf_empty_run (I : w.realm.Intact) (h : IsArray w.realm.objects r []) (none : w.realm.NoneInFront) :
    k.lastOf (.object r) c w = .ok .null w := by
  have own : (objectAt w.realm.objects r).own? "-1" = .none := h.object ▸ own_minusOne _ _ _
  have found : lookUp w.realm.objects (w.realm.objects.size + 1) r "-1" = .none := by
    obtain ⟨more, hm⟩ := I.exists_size
    rw [hm, lookUp_parent own (by rw [h.object]; rfl), lookUp_parent none.arrays I.arraysParent,
      lookUp_top none.objects I.objectsParent]
  have property : k.property r "-1" c w = .ok .undefined w := by
    rw [Kernel.property, bind_of_ok (findProperty_run r _), found]
    rfl
  have place : (Nat.toFloat 0 - 1.0 : Float) = -1.0 := by decide +kernel
  have subtract : k.binary .subtract (.nat 0) (.number 1.0) c w = .ok (.number (-1.0)) w :=
    congrArg (fun x => EStateM.Result.ok (Value.number x) w) place
  have key : k.toKey (.number (-1.0)) c w = .ok "-1" w :=
    congrArg (EStateM.Result.ok · w) (show CodeUnits.ofString (Decimal.compact (-1.0)) = "-1" by decide +kernel)
  have read : k.readIndex (.object r) (.number (-1.0)) c w = .ok .undefined w := by
    have index : Number.indexOfFloat? (-1.0) = .none := by decide +kernel
    simp only [Kernel.readIndex, index]
    exact (bind_of_ok key _).trans property
  rw [Kernel.lastOf, bind_of_ok h.length_run, List.length_nil, bind_of_ok subtract, bind_of_ok read]
  rfl

theorem lastOf_run (I : w.realm.Intact) (h : IsArray w.realm.objects r vs) (few : vs.length ≤ 4294967295)
    (none : vs = [] → w.realm.NoneInFront) (truthy : ∀ v ∈ vs, v.isTruthy) :
    k.lastOf (.object r) c w = .ok (vs.getLast?.getD .null) w := by
  cases last : vs.getLast? with
  | none =>
    obtain rfl := List.getLast?_eq_none_iff.mp last
    exact lastOf_empty_run I h (none rfl)
  | some v =>
    have some_item : 1 ≤ vs.length := List.length_pos_of_mem (List.mem_of_getLast? last)
    have place : vs.length.toFloat - 1.0 = (vs.length - 1).toFloat :=
      (congrArg (vs.length.toFloat - ·) (show (1.0 : Float) = Nat.toFloat 1 by decide +kernel)).trans
        (Number.toFloat_sub some_item (Nat.lt_of_le_of_lt few (by decide)))
    have subtract : k.binary .subtract (.nat vs.length) (.number 1.0) c w = .ok (.nat (vs.length - 1)) w :=
      congrArg (fun x => EStateM.Result.ok (Value.number x) w) place
    have read : k.readIndex (.object r) (.nat (vs.length - 1)) c w = .ok v w :=
      h.readIndex_run (by omega) (List.getLast?_eq_getElem? ▸ last)
    rw [Kernel.lastOf, bind_of_ok h.length_run, bind_of_ok subtract, bind_of_ok read, Value.orElse,
      truthy v (List.mem_of_getLast? last)]
    rfl

end Named

section Root

variable {d : Document} {n i : Nat} {names : List String} {is : List Nat}

/-- A value is null or a wrapper, as there is a node or not. -/
def WrapsOption (i : Option Nat) (v : Value) (os : Array Obj) : Prop :=
  match i with
  | none => v = .null
  | some i => Wraps i v os

theorem truthy_of_forall₂ {R : α → Value → Prop} {as : List α} {vs : List Value} (h : List.Forall₂ R as vs)
    (each : ∀ a v, R a v → v.isTruthy) : ∀ v ∈ vs, v.isTruthy := by
  induction h with
  | nil => exact fun v hv => absurd hv List.not_mem_nil
  | cons hv _ ih => exact List.forall_mem_cons.mpr ⟨each _ _ hv, ih⟩

theorem Wraps.truthy {i : Nat} {v : Value} {os : Array Obj} (h : Wraps i v os) : v.isTruthy := by
  obtain ⟨r, rfl, -⟩ := h
  rfl

theorem WrapsAll.truthy {vs : List Value} {os : Array Obj} (h : WrapsAll is vs os) : ∀ v ∈ vs, v.isTruthy :=
  truthy_of_forall₂ h fun _ _ hv => hv.truthy

theorem WrapsAll.head {vs : List Value} {os : Array Obj} (h : WrapsAll is vs os) :
    WrapsOption is.head? (vs.head?.getD .null) os := by
  cases h with
  | nil => rfl
  | cons hv _ => exact hv

theorem WrapsAll.last {vs : List Value} {os : Array Obj} (h : WrapsAll is vs os) :
    WrapsOption is.getLast? (vs.getLast?.getD .null) os := by
  rw [← List.head?_reverse, ← List.head?_reverse]
  exact WrapsAll.head (List.rel_reverse h)

/-- The wrapper of the node of a number that the document tells, or null where it tells none. -/
theorem Yields.wrapOption {number : Run Value} {found : Option Nat} (I : w.realm.Intact)
    (few : ∀ i, found = some i → i < 2 ^ 53) (room : c.Room 2 9)
    (hn : holding 2 number c w = .ok (numberValue found) w) :
    Yields ((kernel (n + 3)).wrap number) c w (WrapsOption found) := by
  cases found with
  | some i => exact .wrap number I (few i rfl) room hn
  | none =>
    rw [Kernel.wrap]
    refine .of_bind hn ?_
    refine .apply 2 (.object Intrinsic.global.ref) I.wrapper rfl (fun _ => rfl) (room.mono (by omega) (by decide)) ?_
    exact .of_bind below_zero_run (.of_ok rfl rfl)

/-- The first child of the root that has one of some names, by its wrapper. -/
theorem Yields.rootChild (page : c.page = d.numbered) (I : w.realm.Intact)
    (hc : d.numbered.children (some 0) true = .ok is) (small : ∀ j ∈ is, j < 2 ^ 53) (few : names.length < 2 ^ 53)
    (p : Nat → Bool) (hp : ∀ j ∈ is, ∃ e, d.numbered.element j = .ok e ∧ p j = names.contains e.localName)
    (room : c.Room 5 24) :
    Yields ((kernel (n + 5)).rootChild names) c w fun v os => WrapsOption (is.find? p) v os := by
  rw [Kernel.rootChild]
  refine (Yields.makeArray I (names.map Value.string)).bind fun array w₁ l₁ hs => ?_
  obtain ⟨s, rfl, hs⟩ := hs
  have I₁ := (I.later l₁).framed
  refine .asCall (room.mono (by omega) (by omega)) ?_
  have room₁ : (c.inner (2 + 1 + 1)).Room 4 20 := room.inner (by omega) (by omega)
  refine (Yields.wrap (n := n + 2) (i := 0) (c := c.inner (2 + 1 + 1)) (pure (.number 0.0)) I₁ (by decide)
    (room₁.mono (by omega) (by omega)) rfl).bind fun root w₂ l₂ hroot => ?_
  obtain ⟨r, rfl, hr⟩ := hroot
  have I₂ := I₁.later l₂
  refine (Yields.makeNative (c := c.inner (2 + 1 + 1)) (f := .node (.hasName (.object s))) rfl "" 1 fun _ => rfl).bind
    fun hasName w₃ l₃ hg => ?_
  obtain ⟨g, rfl, hg⟩ := hg
  have I₃ := I₂.later l₃
  have hs₃ : IsArray w₃.realm.objects s (names.map Value.string) := by
    refine IsArray.later ?_ (l₂.trans l₃)
    exact hs
  refine (Yields.childrenOf (n := n) (c := c.inner (2 + 1 + 1)) page I₃ (hr.toIsWrapper.later l₃) (nodeNumber_toFloat (i := 0) (by decide)) true hc small
    (room₁.mono (by omega) (by omega))).bind fun children w₄ l₄ hchildren => ?_
  obtain ⟨t, vs, rfl, ht, wraps⟩ := hchildren
  have I₄ := I₃.later l₄
  have filtered := Yields.filterHasName (n := n + 1) (c := c.inner (2 + 1 + 1)) page I₄ ht wraps small p hp
    (hs₃.later l₄) few (hg.later l₄) (room₁.mono (by omega) (by omega))
  refine (Yields.invokeArray (q := ("filter", 1, .filter)) (by decide) I₄ ht (room₁.mono (by omega) (by omega))
    filtered).bind fun v w₅ l₅ hv => ?_
  obtain ⟨u, ws, rfl, hu, kept⟩ := hv
  refine .of_ok (firstOf_run (I₄.later l₅) hu (WrapsAll.truthy kept)) ?_
  rw [← List.head?_filter]
  exact WrapsAll.head kept

end Root

end Pagewalk.Script
