import Pagewalk.Proofs.Script.Wrappers

/-!
# Furnishing a realm

What belongs to nodes, to arrays and to the document is put into a realm by giving objects functions under their names.
Each step changes one property of one object and keeps all else, so what was put stays where it was put.
-/

namespace Pagewalk.Script

open Text

/-! ### What a step of building keeps -/

/-- Objects later on, of which only some properties may be others. -/
structure Keeps (S : Ref → Name → Prop) (os os' : Array Obj) : Prop where
  size : os.size ≤ os'.size
  parent : ∀ s < os.size, (objectAt os' s).parent = (objectAt os s).parent
  shape : ∀ s < os.size, (objectAt os' s).shape = (objectAt os s).shape
  inherent : ∀ s < os.size, ∀ key, (objectAt os' s).inherent? key = (objectAt os s).inherent? key
  own : ∀ s < os.size, ∀ key, ¬S s key → (objectAt os' s).own? key = (objectAt os s).own? key
  isOpen : ∀ s < os.size, (objectAt os' s).isOpen = (objectAt os s).isOpen
  isLengthOpen : ∀ s < os.size, (objectAt os' s).isLengthOpen = (objectAt os s).isLengthOpen

section Keeps

variable {S T : Ref → Name → Prop} {os os' os'' : Array Obj} {r g : Ref} {key : Name} {f : Native}

theorem Keeps.of_same (size : os.size ≤ os'.size) (same : ∀ s < os.size, objectAt os' s = objectAt os s) :
    Keeps S os os' where
  size := size
  parent s hs := by rw [same s hs]
  shape s hs := by rw [same s hs]
  inherent s hs key := by rw [same s hs]
  own s hs key _ := by rw [same s hs]
  isOpen s hs := by rw [same s hs]
  isLengthOpen s hs := by rw [same s hs]

theorem Keeps.trans (k : Keeps S os os') (k' : Keeps S os' os'') : Keeps S os os'' where
  size := Nat.le_trans k.size k'.size
  parent s hs := (k'.parent s (Nat.lt_of_lt_of_le hs k.size)).trans (k.parent s hs)
  shape s hs := (k'.shape s (Nat.lt_of_lt_of_le hs k.size)).trans (k.shape s hs)
  inherent s hs key := (k'.inherent s (Nat.lt_of_lt_of_le hs k.size) key).trans (k.inherent s hs key)
  own s hs key h := (k'.own s (Nat.lt_of_lt_of_le hs k.size) key h).trans (k.own s hs key h)
  isOpen s hs := (k'.isOpen s (Nat.lt_of_lt_of_le hs k.size)).trans (k.isOpen s hs)
  isLengthOpen s hs := (k'.isLengthOpen s (Nat.lt_of_lt_of_le hs k.size)).trans (k.isLengthOpen s hs)

theorem Keeps.mono (k : Keeps S os os') (h : ∀ s key, S s key → T s key) : Keeps T os os' :=
  { k with own := fun s hs key free => k.own s hs key fun hS => free (h s key hS) }

/-- What is kept of the objects that stood there does not depend on what is allowed of the new ones. -/
theorem Keeps.narrow (k : Keeps S os os') (new : ∀ s < os.size, ∀ key, ¬S s key) : Keeps T os os' :=
  { k with own := fun s hs key _ => k.own s hs key (new s hs key) }

theorem Keeps.push (o : Obj) : Keeps S os (os.push o) :=
  .of_same (by rw [Array.size_push]; omega) fun _ hs => objectAt_push_of_lt hs

/-- Setting a property changes that property alone. -/
theorem Keeps.set (p : Property) :
    Keeps (fun s k => s = r ∧ k = key) os (os.modify r (·.setProperty key p)) := by
  have at_ (s : Ref) (hs : s < os.size) : objectAt (os.modify r (·.setProperty key p)) s =
      if s = r then (objectAt os s).setProperty key p else objectAt os s := by
    split
    next same => subst same; exact objectAt_modify_self hs
    next other => exact objectAt_modify_ne other
  have opens (o : Obj) : (o.setProperty key p).isOpen = o.isOpen ∧ (o.setProperty key p).isLengthOpen = o.isLengthOpen := by
    rw [Obj.setProperty]
    split <;> exact ⟨rfl, rfl⟩
  refine ⟨Nat.le_of_eq Array.size_modify.symm, fun s hs => ?_, fun s hs => ?_, fun s hs k => ?_, fun s hs k free => ?_,
    fun s hs => ?_, fun s hs => ?_⟩
  all_goals rw [at_ s hs]; split
  · exact parent_setProperty _ _ _
  · rfl
  · exact shape_setProperty _ _ _
  · rfl
  · exact inherent_setProperty _ _ _ _
  · rfl
  · next same => exact own_setProperty_ne (fun eq => free ⟨same, eq.symm⟩) _
  · rfl
  · exact (opens _).1
  · rfl
  · exact (opens _).2
  · rfl

theorem IsFunction.keeps (h : IsFunction os g f) (k : Keeps S os os') : IsFunction os' g f := by
  obtain ⟨isMaker, shape⟩ := h
  exact ⟨isMaker, (k.shape g (IsFunction.within ⟨isMaker, shape⟩)).trans shape⟩

theorem HasMethod.keeps (h : HasMethod os r key f) (hr : r < os.size) (k : Keeps S os os') (free : ¬S r key) :
    HasMethod os' r key f := by
  obtain ⟨g, a, b, c, own, hg⟩ := h
  exact ⟨g, a, b, c, (k.own r hr key free).trans own, hg.keeps k⟩

theorem HasGetter.keeps (h : HasGetter os r key f) (hr : r < os.size) (k : Keeps S os os') (free : ¬S r key) :
    HasGetter os' r key f := by
  obtain ⟨g, s, a, b, own, hg⟩ := h
  exact ⟨g, s, a, b, (k.own r hr key free).trans own, hg.keeps k⟩

end Keeps

/-! ### Steps of building -/

section Build

variable {α : Type} {os : Array Obj} {r : Ref}

theorem build_bind {β : Type} {step : Build α} {next : α → Build β} {a : α} {os' : Array Obj}
    (h : step.run os = (a, os')) : (step >>= next).run os = (next a).run os' := by
  have split : (step >>= next).run os = (next (step.run os).1).run (step.run os).2 := rfl
  rw [split, h]

/-- A function that is built stands at a new place. -/
theorem native_run (f : Native) (name : String) (arity : Nat) (os : Array Obj) :
    ∃ g os', (Build.native f name arity).run os = (g, os') ∧ IsFunction os' g f ∧ Keeps (fun _ _ => False) os os' := by
  cases framed : f.registers? with
  | none =>
    refine ⟨os.size, os.push (nativeObject f name arity false), ?_, ⟨false, ?_⟩, .push _⟩
    · rw [Build.native, framed]
      rfl
    · rw [objectAt_push_size, nativeObject, functionObject, shape_setProperty, shape_setProperty]
      rfl
  | some registers =>
    let os₁ := os.push (.ofShape (some Intrinsic.objects.ref) .plain)
    let os₂ := os₁.push (makerObject (nativeObject f name arity true) os.size)
    have size₁ : os₁.size = os.size + 1 := Array.size_push _
    have size₂ : os₂.size = os.size + 2 := by rw [Array.size_push, size₁]
    have at_ (s : Ref) (hs : s ≠ os.size) : objectAt (os₂.set! os.size (parentObject os₁.size)) s = objectAt os₂ s := by
      rw [objectAt, objectAt, Array.set!_eq_setIfInBounds, Array.getElem?_setIfInBounds_ne (Ne.symm hs)]
    refine ⟨os₁.size, os₂.set! os.size (parentObject os₁.size), ?_, ⟨true, ?_⟩, .of_same ?_ fun s hs => ?_⟩
    · rw [Build.native, framed]
      rfl
    · rw [at_ _ (size₁ ▸ Nat.succ_ne_self _), objectAt_push_size, makerObject, shape_setProperty, nativeObject, functionObject,
        shape_setProperty, shape_setProperty]
      rfl
    · rw [Array.set!_eq_setIfInBounds, Array.size_setIfInBounds, size₂]
      omega
    · rw [at_ s (Nat.ne_of_lt hs), objectAt_push_of_lt (size₁ ▸ Nat.lt_succ_of_lt hs), objectAt_push_of_lt hs]

/-- A loop that sets one property after another sets them all, and no other. -/
theorem loop_run (key : α → Name) (P : α → Array Obj → Prop) (body : α → Build (ForInStep PUnit)) (list : List α)
    (does : ∀ a ∈ list, ∀ os, r < os.size → (objectAt os r).inherent? (key a) = none →
      ∃ os', (body a).run os = (.yield ⟨⟩, os') ∧ Keeps (fun s k => s = r ∧ k = key a) os os' ∧ P a os')
    (stays : ∀ a os os', ∀ S : Ref → Name → Prop, r < os.size → P a os → Keeps S os os' → ¬S r (key a) → P a os')
    (distinct : (list.map key).Nodup) (os : Array Obj) (within : r < os.size)
    (free : ∀ a ∈ list, (objectAt os r).inherent? (key a) = none) :
    ∃ os', (forIn list PUnit.unit fun a _ => body a : Build PUnit).run os = (⟨⟩, os') ∧
      Keeps (fun s k => s = r ∧ k ∈ list.map key) os os' ∧ ∀ a ∈ list, P a os' := by
  induction list generalizing os with
  | nil => exact ⟨os, rfl, .of_same (Nat.le_refl _) fun _ _ => rfl, fun a ha => absurd ha List.not_mem_nil⟩
  | cons a list ih =>
    rw [List.map_cons, List.nodup_cons] at distinct
    obtain ⟨os₁, run₁, keeps₁, done⟩ := does a List.mem_cons_self os within (free a List.mem_cons_self)
    have within₁ := Nat.lt_of_lt_of_le within keeps₁.size
    obtain ⟨os₂, run₂, keeps₂, rest⟩ := ih (fun b hb => does b (List.mem_cons_of_mem a hb)) distinct.2 os₁ within₁
      fun b hb => (keeps₁.inherent r within _).trans (free b (List.mem_cons_of_mem a hb))
    refine ⟨os₂, ?_, (keeps₁.mono ?_).trans (keeps₂.mono ?_), List.forall_mem_cons.mpr ⟨?_, rest⟩⟩
    · rw [List.forIn_cons, build_bind run₁]
      exact run₂
    · rintro s k ⟨rfl, rfl⟩
      exact ⟨rfl, List.mem_cons_self⟩
    · rintro s k ⟨rfl, hk⟩
      exact ⟨rfl, List.mem_cons_of_mem _ hk⟩
    · exact stays a os₁ os₂ _ within₁ done keeps₂ fun h => distinct.1 h.2

/-- A built function is set as a property. -/
theorem set_native_run {β : Type} (f : Native) (name key : String) (arity : Nat) (property : Ref → Property)
    (next : Build β) (within : r < os.size) (free : (objectAt os r).inherent? (CodeUnits.ofString key) = none) :
    ∃ g os', (do Build.set r key (property (← Build.native f name arity)); next : Build β).run os = next.run os' ∧
      IsFunction os' g f ∧ (objectAt os' r).own? (CodeUnits.ofString key) = some (property g) ∧
      Keeps (fun s k => s = r ∧ k = CodeUnits.ofString key) os os' := by
  obtain ⟨g, os₁, built, hg, keeps⟩ := native_run f name arity os
  have within₁ := Nat.lt_of_lt_of_le within keeps.size
  have keeps₂ : Keeps (fun s k => s = r ∧ k = CodeUnits.ofString key) os₁ (os₁.modify r (·.setProperty _ (property g))) :=
    .set (property g)
  refine ⟨g, os₁.modify r (·.setProperty (CodeUnits.ofString key) (property g)), (build_bind built).trans rfl,
    hg.keeps keeps₂, ?_, (keeps.mono fun _ _ h => h.elim).trans keeps₂⟩
  rw [objectAt_modify_self within₁, own_setProperty ((keeps.inherent r within _).trans free), if_pos rfl]

/-- Methods that are built stand under their names. -/
theorem methods_run (os : Array Obj) (list : List (String × Nat × Native)) (distinct : (list.map fun q => CodeUnits.ofString q.1).Nodup)
    (within : r < os.size) (free : ∀ q ∈ list, (objectAt os r).inherent? (CodeUnits.ofString q.1) = none) :
    ∃ os', (Build.methods r list).run os = ((), os') ∧
      Keeps (fun s k => s = r ∧ k ∈ list.map fun q => CodeUnits.ofString q.1) os os' ∧
      ∀ q ∈ list, HasMethod os' r (CodeUnits.ofString q.1) q.2.2 := by
  have loop := loop_run (r := r) (fun q : String × Nat × Native => CodeUnits.ofString q.1)
    (fun q os => HasMethod os r (CodeUnits.ofString q.1) q.2.2)
    (fun q => do
      Build.set r q.1 (.hidden (.object (← Build.native q.2.2 q.1 q.2.1)))
      pure (.yield ⟨⟩)) list ?_
    (fun q os os' S within h keeps free => h.keeps within keeps free) distinct os within free
  · exact loop
  · intro q _ os within free
    obtain ⟨g, os', run, hg, own, keeps⟩ := set_native_run q.2.2 q.1 q.1 q.2.1 (fun g => .hidden (.object g))
      (pure (ForInStep.yield PUnit.unit)) within free
    exact ⟨os', run, keeps, g, true, false, true, own, hg⟩

/-- The keys that all nodes are given. -/
def nodeKeys : List Name :=
  CodeUnits.ofString "constructor" ::
    ((nodeProperties.map fun q => CodeUnits.ofString q.1) ++ nodeMethods.map fun q => CodeUnits.ofString q.1)

theorem nodup_nodeKeys : nodeKeys.Nodup := by decide +kernel

/-- All nodes are given what can be read of them and what they do. -/
theorem buildNodes_run (os : Array Obj) (within : Intrinsic.nodes.ref < os.size)
    (plain : ∀ key, (objectAt os Intrinsic.nodes.ref).inherent? key = none) :
    ∃ os', buildNodes.run os = ((), os') ∧
      Keeps (fun s k => s = Intrinsic.nodes.ref ∧ k ∈ nodeKeys) os os' ∧
      (∀ q ∈ nodeProperties, HasGetter os' Intrinsic.nodes.ref (CodeUnits.ofString q.1) (.node (.get q.2))) ∧
      ∀ f ∈ nodeMethods, HasMethod os' Intrinsic.nodes.ref (CodeUnits.ofString f.1) (.node f.2.2) := by
  obtain ⟨-, distinct⟩ := List.nodup_cons.mp nodup_nodeKeys
  obtain ⟨distinct₂, distinct₃, apart⟩ := List.nodup_append.mp distinct
  let os₁ := os.modify Intrinsic.nodes.ref (·.setProperty "constructor" (.hidden (.object Intrinsic.nodeMaker.ref)))
  have keeps₁ : Keeps (fun s k => s = Intrinsic.nodes.ref ∧ k = "constructor") os os₁ := .set _
  have within₁ := Nat.lt_of_lt_of_le within keeps₁.size
  have plain₁ (key : Name) := (keeps₁.inherent _ within key).trans (plain key)
  obtain ⟨os₂, run₂, keeps₂, getters⟩ := loop_run (r := Intrinsic.nodes.ref)
    (fun q : String × NodeProperty => CodeUnits.ofString q.1)
    (fun q os => HasGetter os Intrinsic.nodes.ref (CodeUnits.ofString q.1) (.node (.get q.2)))
    (fun q => do
      let get ← Build.native (.node (.get q.2)) "" 0
      let put ← Build.native (.node (.refuse ("setting " ++ q.1))) "" 0
      Build.set Intrinsic.nodes.ref q.1 (.accessor (some get) (some put) false true)
      pure (.yield ⟨⟩)) nodeProperties
    (fun q _ os within free => by
      obtain ⟨get, os₁, built₁, hg, k₁⟩ := native_run (.node (.get q.2)) "" 0 os
      have within₁ := Nat.lt_of_lt_of_le within k₁.size
      obtain ⟨put, os₂, run₂, -, own, k₂⟩ := set_native_run (.node (.refuse ("setting " ++ q.1))) "" q.1 0
        (fun put => .accessor (some get) (some put) false true) (pure (ForInStep.yield PUnit.unit)) within₁ ((k₁.inherent _ within _).trans free)
      exact ⟨os₂, (build_bind built₁).trans run₂, (k₁.mono fun _ _ h => h.elim).trans k₂,
        get, some put, false, true, own, hg.keeps k₂⟩)
    (fun q os os' S within h keeps free => h.keeps within keeps free) distinct₂ os₁ within₁ fun q _ => plain₁ _
  have within₂ := Nat.lt_of_lt_of_le within₁ keeps₂.size
  have plain₂ (key : Name) := (keeps₂.inherent _ within₁ key).trans (plain₁ key)
  obtain ⟨os₃, run₃, keeps₃, methods⟩ := loop_run (r := Intrinsic.nodes.ref)
    (fun q : String × Nat × NodeFunction => CodeUnits.ofString q.1)
    (fun q os => HasMethod os Intrinsic.nodes.ref (CodeUnits.ofString q.1) (.node q.2.2))
    (fun q => do
      Build.visible Intrinsic.nodes.ref q.1 (.node q.2.2) "" q.2.1
      pure (.yield ⟨⟩)) nodeMethods
    (fun q _ os within free => by
      obtain ⟨g, os', run, hg, own, keeps⟩ := set_native_run (.node q.2.2) "" q.1 q.2.1 (fun g => .plain (.object g))
        (pure (ForInStep.yield PUnit.unit)) within free
      exact ⟨os', run, keeps, g, true, true, true, own, hg⟩)
    (fun q os os' S within h keeps free => h.keeps within keeps free) distinct₃ os₂ within₂ fun q _ => plain₂ _
  refine ⟨os₃, ?_, ?_, fun q hq => (getters q hq).keeps within₂ keeps₃ ?_, methods⟩
  · have first : (Build.set Intrinsic.nodes.ref "constructor" (.hidden (.object Intrinsic.nodeMaker.ref))).run os =
        ((), os₁) := rfl
    rw [buildNodes]
    refine (build_bind first).trans ?_
    refine (build_bind run₂).trans ?_
    exact (build_bind run₃).trans rfl
  · refine ((keeps₁.mono ?_).trans (keeps₂.mono ?_)).trans (keeps₃.mono ?_)
    · rintro s k ⟨rfl, rfl⟩
      exact ⟨rfl, List.mem_cons_self⟩
    · rintro s k ⟨rfl, hk⟩
      exact ⟨rfl, List.mem_cons_of_mem _ (List.mem_append_left _ hk)⟩
    · rintro s k ⟨rfl, hk⟩
      exact ⟨rfl, List.mem_cons_of_mem _ (List.mem_append_right _ hk)⟩
  · rintro ⟨-, hk⟩
    exact apart _ (List.mem_map_of_mem hq) _ hk rfl

/-- Functions of a family that are built stand under their names. -/
theorem family_run {β : Type} (os : Array Obj) (n : β → Native) (list : List (String × Nat × β))
    (distinct : (list.map fun q => CodeUnits.ofString q.1).Nodup) (within : r < os.size)
    (free : ∀ q ∈ list, (objectAt os r).inherent? (CodeUnits.ofString q.1) = none) :
    ∃ os', (Build.family r n list).run os = ((), os') ∧
      Keeps (fun s k => s = r ∧ k ∈ list.map fun q => CodeUnits.ofString q.1) os os' ∧
      ∀ q ∈ list, HasMethod os' r (CodeUnits.ofString q.1) (n q.2.2) := by
  have keys : ((list.map fun q => (q.1, q.2.1, n q.2.2)).map fun q => CodeUnits.ofString q.1) =
      list.map fun q => CodeUnits.ofString q.1 := by
    rw [List.map_map]
    rfl
  obtain ⟨os', run, keeps, methods⟩ := methods_run os (list.map fun q => (q.1, q.2.1, n q.2.2)) (keys.symm ▸ distinct)
    within fun q hq => by
      obtain ⟨p, hp, rfl⟩ := List.mem_map.mp hq
      exact free p hp
  rw [keys] at keeps
  exact ⟨os', run, keeps, fun q hq => methods (q.1, q.2.1, n q.2.2) (List.mem_map_of_mem hq)⟩

end Build

/-! ### A furnished realm -/

/-- Builds what belongs to arrays, to the document and to nodes, and the wrapper of the document. -/
def furnish : Build Ref := do
  Build.family Intrinsic.arrays.ref .array arrayMethods
  Build.family Intrinsic.bridge.ref .bridge bridgeFunctions
  buildNodes
  let r ← Build.place ((Obj.ofShape (some Intrinsic.nodes.ref) .plain).setProperty numberKey (.plain (.number (-1.0))))
  for q in documentParts do
    Build.set r q.1 (.accessor (some (← Build.native (.node (.document q.2)) "get" 0)) none true false)
  return r

/-- A realm with the wrapper of a document and what scripts need to go about in it. -/
def Realm.furnished : Realm :=
  { (default : Realm) with objects := (furnish.run intrinsicObjects).2, document := .object (furnish.run intrinsicObjects).1 }

/-- What furnishing changes: the functions of arrays, of the document and of nodes, and what is new. -/
def Furnished (s : Ref) (key : Name) : Prop :=
  s = Intrinsic.arrays.ref ∧ key ∈ (arrayMethods.map fun q => CodeUnits.ofString q.1) ∨
    s = Intrinsic.bridge.ref ∧ key ∈ (bridgeFunctions.map fun q => CodeUnits.ofString q.1) ∨
    s = Intrinsic.nodes.ref ∧ key ∈ nodeKeys

theorem documentParts_ne :
    (∀ q ∈ nodeProperties, CodeUnits.ofString q.1 ∉ documentParts.map fun q => CodeUnits.ofString q.1) ∧
      ∀ f ∈ nodeMethods, CodeUnits.ofString f.1 ∉ documentParts.map fun q => CodeUnits.ofString q.1 := by
  decide +kernel

/-- Builds the wrapper of the document. -/
def buildDocument : Build Ref := do
  let r ← Build.place ((Obj.ofShape (some Intrinsic.nodes.ref) .plain).setProperty numberKey (.plain (.number (-1.0))))
  for q in documentParts do
    Build.set r q.1 (.accessor (some (← Build.native (.node (.document q.2)) "get" 0)) none true false)
  return r

theorem buildDocument_run (os : Array Obj) :
    ∃ os', buildDocument.run os = (os.size, os') ∧ Keeps (fun _ _ => False) os os' ∧
      IsOpenWrapper os' os.size (.number (-1.0)) ∧ (∀ key, (objectAt os' os.size).inherent? key = none) ∧
      ∀ q ∈ documentParts, HasGetter os' os.size (CodeUnits.ofString q.1) (.node (.document q.2)) := by
  let document := (Obj.ofShape (some Intrinsic.nodes.ref) .plain).setProperty numberKey (.plain (.number (-1.0)))
  have placed : (Build.place document).run os = (os.size, os.push document) := rfl
  have new : os.size < (os.push document).size := by
    rw [Array.size_push]
    exact Nat.lt_succ_self _
  have there : objectAt (os.push document) os.size = document := objectAt_push_size
  have plain (key : Name) : (objectAt (os.push document) os.size).inherent? key = none := by
    rw [there, inherent_setProperty]
    rfl
  obtain ⟨os', run, keeps, parts⟩ := loop_run (r := os.size)
    (fun q : String × DocumentPart => CodeUnits.ofString q.1)
    (fun q os' => HasGetter os' os.size (CodeUnits.ofString q.1) (.node (.document q.2)))
    (fun q => do
      Build.set os.size q.1 (.accessor (some (← Build.native (.node (.document q.2)) "get" 0)) none true false)
      pure (.yield ⟨⟩)) documentParts
    (fun q _ os within free => by
      obtain ⟨g, os', run, hg, own, keeps⟩ := set_native_run (.node (.document q.2)) "get" q.1 0
        (fun g => .accessor (some g) none true false) (pure (ForInStep.yield PUnit.unit)) within free
      exact ⟨os', run, keeps, g, none, true, false, own, hg⟩)
    (fun q os os' S within h keeps free => h.keeps within keeps free) (by decide +kernel) _ new fun q _ => plain _
  -- Beside its parts the wrapper has its number alone.
  have bare (key : Name) (noPart : key ∉ documentParts.map fun q => CodeUnits.ofString q.1) (noNumber : numberKey ≠ key) :
      (objectAt os' os.size).own? key = none := by
    rw [keeps.own _ new _ fun h => noPart h.2, there, own_setProperty rfl, if_neg noNumber, own_ofShape_plain]
  refine ⟨os', ?_, ((Keeps.push document).trans keeps).narrow fun s hs _ h => Nat.ne_of_lt hs h.1,
    ⟨⟨?_, ?_, ⟨true, true, true, ?_⟩, fun q hq => ?_⟩, fun f hf => ?_⟩,
    fun key => (keeps.inherent _ new key).trans (plain key), parts⟩
  · rw [buildDocument]
    exact (build_bind placed).trans ((build_bind run).trans rfl)
  · exact Nat.lt_of_lt_of_le new keeps.size
  · rw [keeps.parent _ new, there, parent_setProperty]
    rfl
  · rw [keeps.own _ new _ fun h => absurd h.2 (by decide +kernel), there, own_setProperty rfl, if_pos rfl]
    rfl
  · exact bare _ (documentParts_ne.1 q hq) (nodeProperties_ne q hq).1
  · exact bare _ (documentParts_ne.2 f hf) (nodeMethods_ne f hf).1

theorem furnish_eq : furnish = (do
    Build.family Intrinsic.arrays.ref .array arrayMethods
    Build.family Intrinsic.bridge.ref .bridge bridgeFunctions
    buildNodes
    buildDocument) := rfl

theorem furnish_run : ∃ r os, furnish.run intrinsicObjects = (r, os) ∧ Keeps Furnished intrinsicObjects os ∧
    (∀ q ∈ arrayMethods, HasMethod os Intrinsic.arrays.ref (CodeUnits.ofString q.1) (.array q.2.2)) ∧
    (∀ q ∈ bridgeFunctions, HasMethod os Intrinsic.bridge.ref (CodeUnits.ofString q.1) (.bridge q.2.2)) ∧
    (∀ q ∈ nodeProperties, HasGetter os Intrinsic.nodes.ref (CodeUnits.ofString q.1) (.node (.get q.2))) ∧
    (∀ f ∈ nodeMethods, HasMethod os Intrinsic.nodes.ref (CodeUnits.ofString f.1) (.node f.2.2)) ∧
    IsOpenWrapper os r (.number (-1.0)) ∧ (∀ key, (objectAt os r).inherent? key = none) ∧
    ∀ q ∈ documentParts, HasGetter os r (CodeUnits.ofString q.1) (.node (.document q.2)) := by
  have within (o : Ref) (h : o < 25) : o < intrinsicObjects.size := h
  obtain ⟨os₁, run₁, keeps₁, arrays⟩ := family_run (r := Intrinsic.arrays.ref) intrinsicObjects Native.array
    arrayMethods (by decide +kernel) (by decide) fun q hq => by
      obtain ⟨noIndex, noLength⟩ := arrayMethods_ne q hq
      rw [show objectAt intrinsicObjects Intrinsic.arrays.ref = .ofShape (some Intrinsic.objects.ref) (.array #[] 0)
        from rfl]
      simp only [Obj.inherent?, Obj.ofShape, noIndex, noLength]
      rfl
  have within₁ (o : Ref) (h : o < 25) := Nat.lt_of_lt_of_le (within o h) keeps₁.size
  obtain ⟨os₂, run₂, keeps₂, bridge⟩ := family_run (r := Intrinsic.bridge.ref) os₁ Native.bridge
    bridgeFunctions (by decide +kernel) (within₁ _ (by decide))
    fun q _ => (keeps₁.inherent _ (within _ (by decide)) _).trans rfl
  have within₂ (o : Ref) (h : o < 25) := Nat.lt_of_lt_of_le (within₁ o h) keeps₂.size
  have keeps₁₂ := (keeps₁.mono (T := Furnished) fun _ _ h => .inl h).trans
    (keeps₂.mono (T := Furnished) fun _ _ h => .inr (.inl h))
  obtain ⟨os₃, run₃, keeps₃, getters, methods⟩ := buildNodes_run os₂ (within₂ _ (by decide))
    fun key => (keeps₁₂.inherent _ (within _ (by decide)) key).trans rfl
  have within₃ (o : Ref) (h : o < 25) := Nat.lt_of_lt_of_le (within₂ o h) keeps₃.size
  have keeps₁₃ := keeps₁₂.trans (keeps₃.mono (T := Furnished) fun _ _ h => .inr (.inr h))
  obtain ⟨os₄, run₄, keeps₄, document⟩ := buildDocument_run os₃
  refine ⟨os₃.size, os₄, ?_, keeps₁₃.trans (keeps₄.mono fun _ _ h => h.elim), fun q hq => ?_, fun q hq => ?_,
    fun q hq => ?_, fun f hf => ?_, document⟩
  · rw [furnish_eq, build_bind run₁, build_bind run₂, build_bind run₃]
    exact run₄
  · have stays := (arrays q hq).keeps (within₁ _ (by decide)) keeps₂ fun h => absurd h.1 (by decide)
    exact (stays.keeps (within₂ _ (by decide)) keeps₃ fun h => absurd h.1 (by decide)).keeps (within₃ _ (by decide))
      keeps₄ id
  · have stays := (bridge q hq).keeps (within₂ _ (by decide)) keeps₃ fun h => absurd h.1 (by decide)
    exact stays.keeps (within₃ _ (by decide)) keeps₄ id
  · exact (getters q hq).keeps (within₃ _ (by decide)) keeps₄ id
  · exact (methods f hf).keeps (within₃ _ (by decide)) keeps₄ id

theorem own_ofShape_array (parent : Option Ref) (i : Nat) :
    (Obj.ofShape parent (.array #[] 0)).own? (Obj.indexKey i) = none := by
  rw [own_index rfl]
  have none : (Obj.ofShape parent (.array #[] 0)).properties[Obj.indexKey i]? = none := Std.HashMap.getElem?_empty
  rw [none]
  cases Number.index? (Obj.indexKey i) <;> rfl

/-- No method of arrays is called by a number. -/
theorem not_furnished_indexKey (i : Nat) : ¬Furnished Intrinsic.arrays.ref (Obj.indexKey i) := by
  rintro (⟨-, method⟩ | ⟨same, -⟩ | ⟨same, -⟩)
  · obtain ⟨q, hq, name⟩ := List.mem_map.mp method
    have words : ∀ q ∈ arrayMethods, (CodeUnits.ofString q.1).val.foldl readDigit (some 0) = none := by decide +kernel
    have value := foldl_indexKey i
    rw [← name, words q hq] at value
    cases value
  · exact absurd same (by decide)
  · exact absurd same (by decide)

/-- At first no wrapper is kept, and what arrays have from their parent takes items. -/
theorem Realm.furnished_items :
    (∀ i, (objectAt Realm.furnished.objects Intrinsic.cache.ref).own? (Obj.indexKey i) = none) ∧
      (objectAt Realm.furnished.objects Intrinsic.arrays.ref).shape = .array #[] 0 ∧
      ∀ key, (objectAt Realm.furnished.objects Intrinsic.arrays.ref).takes key = true := by
  obtain ⟨r, os, run, keeps, -⟩ := furnish_run
  have objects : Realm.furnished.objects = os := by rw [Realm.furnished, run]
  have within (o : Ref) (h : o < 25) : o < intrinsicObjects.size := h
  rw [objects]
  refine ⟨fun i => ?_, keeps.shape _ (within _ (by decide)), fun key => ?_⟩
  · have apart : ¬Furnished Intrinsic.cache.ref (Obj.indexKey i) := by
      rintro (h | h | h) <;> exact absurd h.1 (by decide)
    rw [keeps.own _ (within _ (by decide)) _ apart]
    exact own_ofShape_array _ i
  · rw [Obj.takes, keeps.shape _ (within _ (by decide)), keeps.isOpen _ (within _ (by decide)),
      keeps.isLengthOpen _ (within _ (by decide))]
    change (true && _) = true
    cases Number.index? key <;> rfl

theorem Realm.furnished_intact : Realm.furnished.Intact := by
  obtain ⟨r, os, run, keeps, arrays, bridge, getters, -, wrapper, -, parts⟩ := furnish_run
  have objects : Realm.furnished.objects = os := by rw [Realm.furnished, run]
  have document : Realm.furnished.document = .object r := by rw [Realm.furnished, run]
  have within (o : Ref) (h : o < 25) : o < intrinsicObjects.size := h
  rw [← objects] at arrays bridge getters wrapper parts keeps
  have none_own {r : Ref} {key : Name} {p : Option Ref} (h : r < 25) (free : ¬Furnished r key)
      (plain : objectAt intrinsicObjects r = .ofShape p .plain) :
      (objectAt Realm.furnished.objects r).own? key = none := by
    rw [keeps.own r (within r h) key free, plain, own_ofShape_plain]
  have bare (key : Name) : ¬Furnished Intrinsic.objects.ref key := by
    rintro (h | h | h) <;> exact absurd h.1 (by decide)
  refine ⟨keeps.size, getters, bridge, arrays, ⟨true, ?_⟩, ?_, ⟨true, false, false, ?_⟩, ?_, ?_, ?_, fun key hk => ⟨?_, ?_⟩,
    fun i => ⟨?_, ?_⟩, ⟨⟨?_, ⟨#[], 0, ?_⟩, ?_, ?_⟩, fun i p own => ?_⟩, ⟨r, document, wrapper.toIsWrapper, parts⟩⟩
  · rw [keeps.shape _ (within _ (by decide))]
    exact (shape_setProperty _ _ _).trans (shape_setProperty _ _ _)
  · rw [keeps.shape _ (within _ (by decide))]
    exact ((shape_setProperty _ _ _).trans (shape_setProperty _ _ _)).trans (shape_setProperty _ _ _)
  · rw [keeps.own _ (within _ (by decide)) _ (by unfold Furnished; decide +kernel)]
    have native : (nativeObject (.node .make) "Node" 1 true).inherent? parentKey = none :=
      ((inherent_setProperty _ _ _ _).trans (inherent_setProperty _ _ _ _)).trans rfl
    exact (own_setProperty native _ _).trans (if_pos rfl)
  · rw [keeps.parent _ (within _ (by decide))]
    rfl
  · rw [keeps.parent _ (within _ (by decide))]
    rfl
  · rw [keeps.parent _ (within _ (by decide))]
    rfl
  · refine none_own (by decide) ?_ (p := some Intrinsic.objects.ref) rfl
    revert key
    unfold Furnished
    decide +kernel
  · exact none_own (by decide) (bare key) (p := none) rfl
  · rw [keeps.own _ (within _ (by decide)) _ (not_furnished_indexKey i)]
    exact own_ofShape_array _ i
  · exact none_own (by decide) (bare _) (p := none) rfl
  · rw [keeps.parent _ (within _ (by decide))]
    rfl
  · rw [keeps.shape _ (within _ (by decide))]
    rfl
  · rw [keeps.isOpen _ (within _ (by decide))]
    rfl
  · rw [keeps.isLengthOpen _ (within _ (by decide))]
    rfl
  · cases (Realm.furnished_items.1 i).symm.trans own

end Pagewalk.Script
