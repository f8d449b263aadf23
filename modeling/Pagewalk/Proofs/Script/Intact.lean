import Pagewalk.Proofs.Script.Steps

/-!
# Steps that go well

A step of a script goes well when it has an answer and touches nothing that was there before: it may make objects, and
it may make wrappers for nodes that had none. What such steps keep is that the realm is intact: the functions of nodes,
of arrays and of the document are still where they were put, each wrapper still knows the number of its node, and the
array that keeps the wrappers has no items but its own.
-/

namespace Pagewalk.Script

open Text

variable {α β : Type} {l : Finding} {c : Context} {w w' : World}

/-! ### What is where it was put -/

/-- A built-in function stands there. -/
def IsFunction (os : Array Obj) (g : Ref) (f : Native) : Prop := ∃ isMaker, (objectAt os g).shape = .native f isMaker

/-- An object has a built-in function as a property. -/
def HasMethod (os : Array Obj) (r : Ref) (key : Name) (f : Native) : Prop :=
  ∃ g isWritable isEnumerable isConfigurable,
    (objectAt os r).own? key = some (.data (.object g) isWritable isEnumerable isConfigurable) ∧ IsFunction os g f

/-- An object has a property that a built-in function reads. -/
def HasGetter (os : Array Obj) (r : Ref) (key : Name) (f : Native) : Prop :=
  ∃ g set isEnumerable isConfigurable,
    (objectAt os r).own? key = some (.accessor (some g) set isEnumerable isConfigurable) ∧ IsFunction os g f

/-- The wrapper of the node of a number, with no property of its own in the place of what nodes have. -/
structure IsWrapper (os : Array Obj) (r : Ref) (number : Value) : Prop where
  within : r < os.size
  parent : (objectAt os r).parent = some Intrinsic.nodes.ref
  number : ∃ isWritable isEnumerable isConfigurable,
    (objectAt os r).own? numberKey = some (.data number isWritable isEnumerable isConfigurable)
  plain : ∀ q ∈ nodeProperties, (objectAt os r).own? (CodeUnits.ofString q.1) = none

/-- A wrapper that hides no method of nodes. -/
structure IsOpenWrapper (os : Array Obj) (r : Ref) (number : Value) : Prop extends IsWrapper os r number where
  methods : ∀ f ∈ nodeMethods, (objectAt os r).own? (CodeUnits.ofString f.1) = none

/-- The wrapper that is kept for a node. -/
structure IsKept (os : Array Obj) (r : Ref) (i : Nat) : Prop extends IsOpenWrapper os r (.nat i) where
  cached : (objectAt os Intrinsic.cache.ref).own? (Obj.indexKey i) = some (.plain (.object r))

/-- An array that takes items, as the one that keeps wrappers is made. -/
structure Obj.IsStore (o : Obj) : Prop where
  parent : o.parent = some Intrinsic.arrays.ref
  shape : ∃ items length, o.shape = .array items length
  isOpen : o.isOpen = true
  isLengthOpen : o.isLengthOpen = true

/-- The array that keeps wrappers has those of the nodes under their numbers. -/
structure IsCache (os : Array Obj) : Prop where
  store : (objectAt os Intrinsic.cache.ref).IsStore
  kept : ∀ i p, (objectAt os Intrinsic.cache.ref).own? (Obj.indexKey i) = some p →
    ∃ r, p = .plain (.object r) ∧ IsKept os r i

/-- What can be read of the document beside what can be read of all nodes. -/
def documentParts : List (String × DocumentPart) :=
  [("documentElement", .root), ("head", .head), ("body", .body), ("title", .title)]

/-- No script has changed what belongs to nodes. -/
structure Realm.Intact (m : Realm) : Prop where
  size : Intrinsic.count ≤ m.objects.size
  getters : ∀ q ∈ nodeProperties, HasGetter m.objects Intrinsic.nodes.ref (CodeUnits.ofString q.1) (.node (.get q.2))
  bridge : ∀ f ∈ bridgeFunctions, HasMethod m.objects Intrinsic.bridge.ref (CodeUnits.ofString f.1) (.bridge f.2.2)
  arrays : ∀ f ∈ arrayMethods, HasMethod m.objects Intrinsic.arrays.ref (CodeUnits.ofString f.1) (.array f.2.2)
  wrapper : IsFunction m.objects Intrinsic.wrapper.ref (.node .wrap)
  maker : (objectAt m.objects Intrinsic.nodeMaker.ref).shape = .native (.node .make) true
  makerParent : ∃ isWritable isEnumerable isConfigurable, (objectAt m.objects Intrinsic.nodeMaker.ref).own? parentKey =
    some (.data (.object Intrinsic.nodes.ref) isWritable isEnumerable isConfigurable)
  nodesParent : (objectAt m.objects Intrinsic.nodes.ref).parent = some Intrinsic.objects.ref
  objectsParent : (objectAt m.objects Intrinsic.objects.ref).parent = none
  arraysParent : (objectAt m.objects Intrinsic.arrays.ref).parent = some Intrinsic.objects.ref
  free : ∀ key ∈ [numberKey, "style"], (objectAt m.objects Intrinsic.nodes.ref).own? key = none ∧
    (objectAt m.objects Intrinsic.objects.ref).own? key = none
  noItem : ∀ i, (objectAt m.objects Intrinsic.arrays.ref).own? (Obj.indexKey i) = none ∧
    (objectAt m.objects Intrinsic.objects.ref).own? (Obj.indexKey i) = none
  cache : IsCache m.objects
  document : ∃ r, m.document = .object r ∧ IsWrapper m.objects r (.number (-1.0)) ∧
    ∀ q ∈ documentParts, HasGetter m.objects r (CodeUnits.ofString q.1) (.node (.document q.2))

/-- The array that keeps wrappers later on: it has what it had, and wrappers that are new. -/
structure Restocks (os os' : Array Obj) : Prop where
  before : (objectAt os Intrinsic.cache.ref).IsStore
  after : (objectAt os' Intrinsic.cache.ref).IsStore
  kept : ∀ i p, (objectAt os Intrinsic.cache.ref).own? (Obj.indexKey i) = some p →
    (objectAt os' Intrinsic.cache.ref).own? (Obj.indexKey i) = some p
  new : ∀ i p, (objectAt os' Intrinsic.cache.ref).own? (Obj.indexKey i) = some p →
    (objectAt os Intrinsic.cache.ref).own? (Obj.indexKey i) = some p ∨ ∃ r, p = .plain (.object r) ∧ IsKept os' r i

/-- A realm later on: what was there is unchanged, and wrappers may have been made. -/
structure Realm.Later (m m' : Realm) : Prop where
  size : m.objects.size ≤ m'.objects.size
  objects : ∀ r < m.objects.size, objectAt m'.objects r = objectAt m.objects r ∨
    r = Intrinsic.cache.ref ∧ Restocks m.objects m'.objects
  document : m'.document = m.document
  scopes : m'.scopes = m.scopes

theorem IsFunction.within {os : Array Obj} {g : Ref} {f : Native} (h : IsFunction os g f) : g < os.size := by
  obtain ⟨isMaker, shape⟩ := h
  refine Nat.lt_of_not_le fun out => ?_
  rw [objectAt, Array.getElem?_eq_none out] at shape
  cases shape

section Later

variable {m m' m'' : Realm} {r : Ref} {key : Name} {f : Native} {number : Value} {i : Nat}

theorem Realm.Later.same (l : m.Later m') (hr : r < m.objects.size) (other : r ≠ Intrinsic.cache.ref) :
    objectAt m'.objects r = objectAt m.objects r :=
  (l.objects r hr).resolve_right fun h => other h.1

theorem IsFunction.later (h : IsFunction m.objects r f) (l : m.Later m') : IsFunction m'.objects r f := by
  rcases l.objects r h.within with same | ⟨rfl, restocks⟩
  · rw [IsFunction, same]
    exact h
  · obtain ⟨isMaker, shape⟩ := h
    obtain ⟨items, length, array⟩ := restocks.before.shape
    cases shape.symm.trans array

theorem HasMethod.later (h : HasMethod m.objects r key f) (same : objectAt m'.objects r = objectAt m.objects r)
    (l : m.Later m') : HasMethod m'.objects r key f := by
  obtain ⟨g, a, b, c, own, hg⟩ := h
  exact ⟨g, a, b, c, same.symm ▸ own, hg.later l⟩

theorem HasGetter.later (h : HasGetter m.objects r key f) (same : objectAt m'.objects r = objectAt m.objects r)
    (l : m.Later m') : HasGetter m'.objects r key f := by
  obtain ⟨g, s, a, b, own, hg⟩ := h
  exact ⟨g, s, a, b, same.symm ▸ own, hg.later l⟩

/-- A wrapper is not the array that keeps wrappers, so it is as it was. -/
theorem IsWrapper.same (h : IsWrapper m.objects r number) (l : m.Later m') :
    objectAt m'.objects r = objectAt m.objects r := by
  rcases l.objects r h.within with same | ⟨rfl, restocks⟩
  · exact same
  · exact absurd (h.parent.symm.trans restocks.before.parent) (by decide)

theorem IsWrapper.later (h : IsWrapper m.objects r number) (l : m.Later m') : IsWrapper m'.objects r number := by
  have same := h.same l
  exact ⟨Nat.lt_of_lt_of_le h.within l.size, same ▸ h.parent, same ▸ h.number, same ▸ h.plain⟩

theorem IsOpenWrapper.later (h : IsOpenWrapper m.objects r number) (l : m.Later m') : IsOpenWrapper m'.objects r number :=
  ⟨h.toIsWrapper.later l, h.same l ▸ h.methods⟩

theorem IsKept.later (h : IsKept m.objects r i) (l : m.Later m') : IsKept m'.objects r i := by
  refine ⟨h.toIsOpenWrapper.later l, ?_⟩
  rcases l.objects _ (lt_size_of_own h.cached) with same | ⟨-, restocks⟩
  · exact same ▸ h.cached
  · exact restocks.kept i _ h.cached

theorem IsCache.later (h : IsCache m.objects) (within : Intrinsic.cache.ref < m.objects.size) (l : m.Later m') :
    IsCache m'.objects := by
  have old (i : Nat) (p : Property) (own : (objectAt m.objects Intrinsic.cache.ref).own? (Obj.indexKey i) = some p) :
      ∃ r, p = .plain (.object r) ∧ IsKept m'.objects r i := by
    obtain ⟨r, eq, kept⟩ := h.kept i p own
    exact ⟨r, eq, kept.later l⟩
  rcases l.objects _ within with same | ⟨-, restocks⟩
  · exact ⟨same ▸ h.store, fun i p own => old i p (same ▸ own)⟩
  · exact ⟨restocks.after, fun i p own => (restocks.new i p own).elim (old i p) id⟩

theorem Realm.Later.refl (m : Realm) : m.Later m := ⟨Nat.le_refl _, fun _ _ => .inl rfl, rfl, rfl⟩

theorem Restocks.trans (h : Restocks m.objects m'.objects) (h' : Restocks m'.objects m''.objects) (l' : m'.Later m'') :
    Restocks m.objects m''.objects where
  before := h.before
  after := h'.after
  kept i p own := h'.kept i p (h.kept i p own)
  new i p own := by
    rcases h'.new i p own with own | new
    · rcases h.new i p own with own | ⟨r, eq, kept⟩
      · exact .inl own
      · exact .inr ⟨r, eq, kept.later l'⟩
    · exact .inr new

/-- What is restocked in between is restocked on the whole. -/
theorem Restocks.of_same (h : Restocks m.objects m'.objects) (l' : m'.Later m'')
    (same : objectAt m''.objects Intrinsic.cache.ref = objectAt m'.objects Intrinsic.cache.ref) :
    Restocks m.objects m''.objects where
  before := h.before
  after := same ▸ h.after
  kept i p own := same ▸ h.kept i p own
  new i p own := by
    rcases h.new i p (same ▸ own) with own | ⟨r, eq, kept⟩
    · exact .inl own
    · exact .inr ⟨r, eq, kept.later l'⟩

theorem Realm.Later.trans (l : m.Later m') (l' : m'.Later m'') : m.Later m'' where
  size := Nat.le_trans l.size l'.size
  objects r hr := by
    have hr' := Nat.lt_of_lt_of_le hr l.size
    rcases l.objects r hr with same | ⟨rfl, restocks⟩
    · rcases l'.objects r hr' with same' | ⟨rfl, restocks'⟩
      · exact .inl (same'.trans same)
      · exact .inr ⟨rfl, same ▸ restocks'.before, restocks'.after, same ▸ restocks'.kept, same ▸ restocks'.new⟩
    · rcases l'.objects _ hr' with same' | ⟨-, restocks'⟩
      · exact .inr ⟨rfl, restocks.of_same l' same'⟩
      · exact .inr ⟨rfl, restocks.trans restocks' l'⟩
  document := l'.document.trans l.document
  scopes := l'.scopes.trans l.scopes

/-- A realm that is intact stays so. -/
theorem Realm.Intact.later (I : m.Intact) (l : m.Later m') : m'.Intact := by
  have within (o : Intrinsic) : o.ref < m.objects.size :=
    Nat.lt_of_lt_of_le (by cases o <;> first | decide | (rename_i k; cases k <;> decide)) I.size
  have nodes := l.same (within .nodes) (by decide)
  have objects := l.same (within .objects) (by decide)
  have arrays := l.same (within .arrays) (by decide)
  have maker := l.same (within .nodeMaker) (by decide)
  obtain ⟨r, document, wraps, parts⟩ := I.document
  exact {
    size := Nat.le_trans I.size l.size
    getters := fun q hq => (I.getters q hq).later nodes l
    bridge := fun f hf => (I.bridge f hf).later (l.same (within .bridge) (by decide)) l
    arrays := fun f hf => (I.arrays f hf).later arrays l
    wrapper := I.wrapper.later l
    maker := maker ▸ I.maker
    makerParent := maker ▸ I.makerParent
    nodesParent := nodes ▸ I.nodesParent
    objectsParent := objects ▸ I.objectsParent
    arraysParent := arrays ▸ I.arraysParent
    free := nodes ▸ objects ▸ I.free
    noItem := arrays ▸ objects ▸ I.noItem
    cache := I.cache.later (within .cache) l
    document := ⟨r, l.document.trans document, wraps.later l, fun q hq => (parts q hq).later (wraps.same l) l⟩ }

/-- A line of parents has room for the intrinsic objects. -/
theorem Realm.Intact.exists_size (I : m.Intact) : ∃ more, m.objects.size = more + 2 := by
  have size : 25 ≤ m.objects.size := I.size
  exact ⟨m.objects.size - 2, by omega⟩

end Later

/-! ### Steps that go well -/

/-- A step has an answer of which something holds, and what was there is unchanged. -/
def Yields (step : Run α) (c : Context) (w : World) (P : α → Array Obj → Prop) : Prop :=
  ∃ a w', step c w = .ok a w' ∧ w.realm.Later w'.realm ∧ P a w'.realm.objects

theorem Yields.bind {step : Run α} {next : α → Run β} {P : α → Array Obj → Prop} {Q : β → Array Obj → Prop}
    (h : Yields step c w P)
    (rest : ∀ a w', w.realm.Later w'.realm → P a w'.realm.objects → Yields (next a) c w' Q) :
    Yields (step >>= next) c w Q := by
  obtain ⟨a, w', eq, l, hP⟩ := h
  obtain ⟨b, w'', eq', l', hQ⟩ := rest a w' l hP
  exact ⟨b, w'', (bind_of_ok eq next).trans eq', l.trans l', hQ⟩

theorem Yields.of_ok {step : Run α} {a : α} {P : α → Array Obj → Prop} (h : step c w = .ok a w)
    (hP : P a w.realm.objects) : Yields step c w P := ⟨a, w, h, .refl _, hP⟩

theorem Yields.mono {step : Run α} {P Q : α → Array Obj → Prop} (h : Yields step c w P)
    (imp : ∀ a os, P a os → Q a os) : Yields step c w Q := by
  obtain ⟨a, w', eq, l, hP⟩ := h
  exact ⟨a, w', eq, l, imp _ _ hP⟩

theorem Yields.of_run_eq {step step' : Run α} {P : α → Array Obj → Prop} (eq : step c w = step' c w)
    (h : Yields step' c w P) : Yields step c w P := by
  obtain ⟨a, w', eq', rest⟩ := h
  exact ⟨a, w', eq.trans eq', rest⟩

/-- A step goes on well from where it is known to lead. -/
theorem Yields.after {step : Run α} {next : α → Run β} {a : α} {Q : β → Array Obj → Prop}
    (h : step c w = .ok a w') (l : w.realm.Later w'.realm) (hn : Yields (next a) c w' Q) :
    Yields (step >>= next) c w Q := by
  obtain ⟨b, w'', eq, l', hQ⟩ := hn
  exact ⟨b, w'', (bind_of_ok h next).trans eq, l.trans l', hQ⟩

/-- A step goes well if it is a known answer that goes on well. -/
theorem Yields.of_bind {step : Run α} {next : α → Run β} {a : α} {Q : β → Array Obj → Prop}
    (h : step c w = .ok a w) (hn : Yields (next a) c w Q) : Yields (step >>= next) c w Q := by
  obtain ⟨b, w', eq, l, hQ⟩ := hn
  exact ⟨b, w', (bind_of_ok h next).trans eq, l, hQ⟩

/-- A call goes well if what it does goes well in a frame of its own. -/
theorem Yields.asCall {step : Run α} {arguments registers : Nat} {P : α → Array Obj → Prop}
    (room : c.Room 1 (2 + arguments + 1))
    (h : Yields step (c.inner (2 + arguments + registers)) w.framed P) :
    Yields (asCall arguments registers step) c w P := by
  obtain ⟨a, w', eq, l, hP⟩ := h
  refine ⟨a, { w' with realm := { w'.realm with iterations := w.realm.iterations } },
    asCall_run _ _ room eq Finding.allowsFrames_own, ?_, hP⟩
  exact ⟨l.size, l.objects, l.document, l.scopes⟩

/-! ### Calls of built-in functions -/

/-- What counts its iterations apart begins with what was there. -/
theorem Realm.Later.framed (w : World) : w.realm.Later w.framed.realm := ⟨Nat.le_refl _, fun _ _ => .inl rfl, rfl, rfl⟩

theorem Realm.Intact.framed (I : w.realm.Intact) : w.framed.realm.Intact := I.later (.framed w)

section Apply

variable {n : Nat} {g r : Ref} {f : Native} {this number : Value} {args : List Value} {key : Name}

/-- A built-in function without a frame does what it does. -/
theorem apply_run (hg : IsFunction w.realm.objects g f) (plain : f.registers? = none) (room : c.Room 1 1) :
    ((kernel (n + 1)).apply (.object g) this args).act l c w = ((kernel n).runNative f this args).act l c w := by
  obtain ⟨isMaker, shape⟩ := hg
  change ((kernel n).callValue (.object g) this args).act l c w = _
  rw [Kernel.callValue, bind_of_ok (object_run g), shape]
  change ((kernel n).callNative f this args).act l c w = _
  rw [Kernel.callNative, plain]
  exact bind_of_ok (checkLimits_run room) _

/-- A built-in function with a frame does what it does there. -/
theorem apply_framed_run {registers : Nat} (hg : IsFunction w.realm.objects g f) (framed : f.registers? = some registers) :
    (kernel (n + 1)).apply (.object g) this args c w =
      Script.asCall args.length registers (do (kernel n).runNative f (← looseThis this) args) c w := by
  obtain ⟨isMaker, shape⟩ := hg
  change (kernel n).callValue (.object g) this args c w = _
  rw [Kernel.callValue, bind_of_ok (object_run g), shape]
  change (kernel n).callNative f this args c w = _
  rw [Kernel.callNative, framed]

/-- A built-in function with a frame goes well if what it does goes well there. -/
theorem Yields.apply {P : Value → Array Obj → Prop} (registers : Nat) (this' : Value)
    (hg : IsFunction w.realm.objects g f) (framed : f.registers? = some registers)
    (hthis : ∀ w, looseThis this (c.inner (2 + args.length + registers)) w = .ok this' w)
    (room : c.Room 1 (2 + args.length + 1))
    (h : Yields ((kernel n).runNative f this' args) (c.inner (2 + args.length + registers))
      w.framed P) :
    Yields ((kernel (n + 1)).apply (.object g) this args) c w P :=
  .of_run_eq (apply_framed_run hg framed) (.asCall room (.of_bind (hthis _) h))

/-- The property of an object is found along the line of its parents. -/
theorem propertyOf_run (k : Kernel) (r : Ref) (key : Name) :
    (k.propertyOf (.object r) key).act l c w =
      (k.readProperty (lookUp w.realm.objects (w.realm.objects.size + 1) r key) (.object r)).act l c w := by
  change (findProperty r key >>= fun p => k.readProperty p (.object r)).act l c w = _
  rw [bind_of_ok (findProperty_run r key)]

theorem propertyOf_own {k : Kernel} {v : Value} {a b e : Bool}
    (own : (objectAt w.realm.objects r).own? key = some (.data v a b e)) :
    (k.propertyOf (.object r) key).act l c w = .ok v w := by
  rw [propertyOf_run, lookUp_own own]
  rfl

theorem property_own {k : Kernel} {v : Value} {a b e : Bool}
    (own : (objectAt w.realm.objects r).own? key = some (.data v a b e)) : (k.property r key).act l c w = .ok v w := by
  rw [Kernel.property, bind_of_ok (findProperty_run r key), lookUp_own own]
  rfl

/-- A method of an object without a frame is called. -/
theorem invoke_run (h : HasMethod w.realm.objects r key f) (plain : f.registers? = none) (room : c.Room 1 1) :
    (kernel (n + 1)).invoke (.object r) key args c w = (kernel n).runNative f (.object r) args c w := by
  obtain ⟨g, a, b, e, own, hg⟩ := h
  rw [Kernel.invoke, bind_of_ok (propertyOf_own own), apply_run hg plain room]

/-- The document is asked by numbers. -/
theorem ask_run (args : List Value) (I : w.realm.Intact) {q : String × Nat × Bridge} (hq : q ∈ bridgeFunctions)
    (room : c.Room 1 1) :
    (kernel (n + 1)).ask (CodeUnits.ofString q.1) args c w = q.2.2.run (kernel n) args c w :=
  invoke_run (I.bridge q hq) rfl room

/-- The document is asked about the node of a wrapper. -/
theorem askOf_run (args : List Value) (I : w.realm.Intact) (hr : IsWrapper w.realm.objects r number)
    {q : String × Nat × Bridge} (hq : q ∈ bridgeFunctions) (room : c.Room 1 1) :
    (kernel (n + 1)).askOf (.object r) (CodeUnits.ofString q.1) args c w = q.2.2.run (kernel n) (number :: args) c w := by
  obtain ⟨a, b, e, own⟩ := hr.number
  rw [Kernel.askOf, bind_of_ok (propertyOf_own own), ask_run _ I hq room]

/-- A property that a function reads is what the function gives. -/
theorem accessor_run {k : Kernel} {g : Ref} {set : Option Ref} {a b : Bool}
    (found : lookUp w.realm.objects (w.realm.objects.size + 1) r key = some (.accessor (some g) set a b)) :
    k.propertyOf (.object r) key c w = k.apply (.object g) (.object r) [] c w := by
  rw [propertyOf_run, found]
  rfl

/-- A property that a function of nodes reads. -/
theorem Yields.accessor {P : Value → Array Obj → Prop} {f : NodeFunction} {g : Ref} {set : Option Ref} {a b : Bool}
    (found : lookUp w.realm.objects (w.realm.objects.size + 1) r key = some (.accessor (some g) set a b))
    (hg : IsFunction w.realm.objects g (.node f)) (room : c.Room 1 3)
    (h : Yields ((kernel n).nodeFunction f (.object r) []) (c.inner (2 + f.registers)) w.framed P) :
    Yields ((kernel (n + 1)).propertyOf (.object r) key) c w P :=
  .of_run_eq (accessor_run found) (.apply _ (.object r) hg rfl (fun _ => rfl) room h)

/-- What can be read of a node is found by its wrapper. -/
theorem Realm.Intact.lookUp_getter {m : Realm} (I : m.Intact) (hr : IsWrapper m.objects r number)
    {q : String × NodeProperty} (hq : q ∈ nodeProperties) :
    ∃ g set a b, lookUp m.objects (m.objects.size + 1) r (CodeUnits.ofString q.1) = some (.accessor (some g) set a b) ∧
      IsFunction m.objects g (.node (.get q.2)) := by
  obtain ⟨g, set, a, b, own, hg⟩ := I.getters q hq
  obtain ⟨more, hm⟩ := I.exists_size
  exact ⟨g, set, a, b, by rw [hm, lookUp_parent (hr.plain q hq) hr.parent, lookUp_own own], hg⟩

/-- What can be read of a node is read of its wrapper. -/
theorem Yields.getter {P : Value → Array Obj → Prop} {q : String × NodeProperty} (hq : q ∈ nodeProperties)
    (I : w.realm.Intact) (hr : IsWrapper w.realm.objects r number) (room : c.Room 1 3)
    (h : Yields ((kernel n).nodeProperty q.2 (.object r)) (c.inner (2 + (NodeFunction.get q.2).registers))
      w.framed P) :
    Yields ((kernel (n + 1)).propertyOf (.object r) (CodeUnits.ofString q.1)) c w P := by
  obtain ⟨g, set, a, b, found, hg⟩ := I.lookUp_getter hr hq
  exact .accessor found hg room h

/-- Reading a property of a node counts no iteration. -/
theorem iterations_of_getter {q : String × NodeProperty} (hq : q ∈ nodeProperties) (I : w.realm.Intact)
    (hr : IsWrapper w.realm.objects r number) (room : c.Room 1 3) {v : Value}
    (h : (kernel (n + 1)).propertyOf (.object r) (CodeUnits.ofString q.1) c w = .ok v w') :
    w'.realm.iterations = w.realm.iterations := by
  obtain ⟨g, set, a, b, found, hg⟩ := I.lookUp_getter hr hq
  rw [accessor_run found, apply_framed_run hg rfl] at h
  exact iterations_of_asCall room h

/-- What can be read of the document alone is read of its wrapper. -/
theorem Yields.documentGetter {P : Value → Array Obj → Prop} {q : String × DocumentPart} (hq : q ∈ documentParts)
    (I : w.realm.Intact) (room : c.Room 1 3)
    (h : Yields ((kernel n).documentPart q.2) (c.inner 2) w.framed P) :
    Yields ((kernel (n + 1)).propertyOf w.realm.document (CodeUnits.ofString q.1)) c w P := by
  obtain ⟨r, document, -, parts⟩ := I.document
  obtain ⟨g, s, a, b, own, hg⟩ := parts q hq
  rw [document]
  exact .accessor (lookUp_own own) hg room h

end Apply

end Pagewalk.Script
