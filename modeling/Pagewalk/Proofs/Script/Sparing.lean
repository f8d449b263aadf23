import Pagewalk.Proofs.Script.Furnishing
import Pagewalk.Proofs.Script.Records
import Pagewalk.Proofs.Script.Selections

/-!
# Scripts that leave nodes alone

What scripts ask of nodes rests on some properties of a few objects and on the wrappers that are kept. A script that
leaves these alone may do all else, so what belongs to nodes is whole after it, and the wrappers that were kept are
kept still. Making a wrapper is such a step.
-/

namespace Pagewalk.Script

open Text

variable {α : Type} {m m' m'' : Realm} {c : Context} {w : World}

/-! ### What nodes rest on -/

/-- A key under which something stands that nodes rest on. -/
inductive Vital : Name → Prop
  | item (i : Nat) : Vital (Obj.indexKey i)
  | property {q} (h : q ∈ nodeProperties) : Vital (CodeUnits.ofString q.1)
  | method {f} (h : f ∈ nodeMethods) : Vital (CodeUnits.ofString f.1)
  | bridge {f} (h : f ∈ bridgeFunctions) : Vital (CodeUnits.ofString f.1)
  | array {f} (h : f ∈ arrayMethods) : Vital (CodeUnits.ofString f.1)
  | part {q} (h : q ∈ documentParts) : Vital (CodeUnits.ofString q.1)
  | own {key : Name} (h : key ∈ [numberKey, "style", parentKey]) : Vital key

/-- The keys under which scripts find the document and its other functions. -/
def entryKeys : List Name := ["String", "document", "getElementById"]

section Keeps

variable {S : Ref → Name → Prop} {os : Array Obj} {r : Ref} {i : Nat} {number : Value}

theorem IsWrapper.keeps (h : IsWrapper m.objects r number) (k : Keeps S m.objects os) (free : ∀ r key, Vital key → ¬S r key) :
    IsWrapper os r number := by
  refine ⟨Nat.lt_of_lt_of_le h.within k.size, (k.parent r h.within).trans h.parent, ?_, fun q hq => ?_⟩
  · rw [k.own r h.within _ (free r _ (.own (by decide)))]
    exact h.number
  · rw [k.own r h.within _ (free r _ (.property hq))]
    exact h.plain q hq

theorem IsOpenWrapper.keeps (h : IsOpenWrapper m.objects r number) (k : Keeps S m.objects os)
    (free : ∀ r key, Vital key → ¬S r key) : IsOpenWrapper os r number :=
  ⟨h.toIsWrapper.keeps k free, fun f hf => (k.own r h.within _ (free r _ (.method hf))).trans (h.methods f hf)⟩

theorem IsKept.keeps (h : IsKept m.objects r i) (k : Keeps S m.objects os) (free : ∀ r key, Vital key → ¬S r key) :
    IsKept os r i := by
  refine ⟨h.toIsOpenWrapper.keeps k free, ?_⟩
  rw [k.own _ (lt_size_of_own h.cached) _ (free _ _ (.item i))]
  exact h.cached

section Intact

variable (k : Keeps S m.objects os) (free : ∀ r key, Vital key → ¬S r key)

include k free

/-- Where no key is touched that nodes rest on, the realm stays intact. -/
theorem Realm.Intact.keeps (I : m.Intact) : ({ m with objects := os } : Realm).Intact := by
  have within (o : Intrinsic) : o.ref < m.objects.size :=
    Nat.lt_of_lt_of_le (by cases o <;> first | decide | (rename_i k; cases k <;> decide)) I.size
  have own (o : Intrinsic) {key : Name} (vital : Vital key) :
      (objectAt os o.ref).own? key = (objectAt m.objects o.ref).own? key :=
    k.own _ (within o) key (free _ _ vital)
  obtain ⟨r, document, wrapper, parts⟩ := I.document
  have store := I.cache.store
  exact {
    size := Nat.le_trans I.size k.size
    getters := fun q hq => (I.getters q hq).keeps (within .nodes) k (free _ _ (.property hq))
    bridge := fun f hf => (I.bridge f hf).keeps (within .bridge) k (free _ _ (.bridge hf))
    arrays := fun f hf => (I.arrays f hf).keeps (within .arrays) k (free _ _ (.array hf))
    wrapper := I.wrapper.keeps k
    maker := (k.shape _ (within .nodeMaker)).trans I.maker
    makerParent := by
      obtain ⟨a, b, e, h⟩ := I.makerParent
      exact ⟨a, b, e, (own .nodeMaker (.own (by decide))).trans h⟩
    nodesParent := (k.parent _ (within .nodes)).trans I.nodesParent
    objectsParent := (k.parent _ (within .objects)).trans I.objectsParent
    arraysParent := (k.parent _ (within .arrays)).trans I.arraysParent
    free := fun key hk => by
      have vital : Vital key := .own (List.mem_append_left [parentKey] hk)
      exact ⟨(own .nodes vital).trans (I.free key hk).1, (own .objects vital).trans (I.free key hk).2⟩
    noItem := fun i => ⟨(own .arrays (.item i)).trans (I.noItem i).1, (own .objects (.item i)).trans (I.noItem i).2⟩
    cache := by
      refine ⟨⟨(k.parent _ (within .cache)).trans store.parent, ?_, ?_, ?_⟩, fun i p h => ?_⟩
      · rw [k.shape _ (within .cache)]
        exact store.shape
      · exact (k.isOpen _ (within .cache)).trans store.isOpen
      · exact (k.isLengthOpen _ (within .cache)).trans store.isLengthOpen
      · obtain ⟨t, eq, kept⟩ := I.cache.kept i p ((own .cache (.item i)).symm.trans h)
        exact ⟨t, eq, kept.keeps k free⟩
    document :=
      ⟨r, document, wrapper.keeps k free, fun q hq => (parts q hq).keeps wrapper.within k (free _ _ (.part hq))⟩ }

/-- Where scripts find the document besides, what belongs to nodes stays whole. -/
theorem Realm.Whole.keeps (W : m.Whole) (entries : ∀ r, ∀ key ∈ entryKeys, ¬S r key) :
    ({ m with objects := os } : Realm).Whole := by
  have within (o : Intrinsic) : o.ref < m.objects.size :=
    Nat.lt_of_lt_of_le (by cases o <;> first | decide | (rename_i k; cases k <;> decide)) W.size
  obtain ⟨s, document, byId, methods⟩ := W.documentMethods
  have inside : s < m.objects.size := by
    obtain ⟨_, _, _, _, own, -⟩ := byId
    exact lt_size_of_own own
  exact {
    toIntact := W.toIntact.keeps k free
    methods := fun f hf => (W.methods f hf).keeps (within .nodes) k (free _ _ (.method hf))
    texts := W.texts.keeps (within .global) k (entries _ _ (by decide))
    named := by
      obtain ⟨a, b, e, h⟩ := W.named
      exact ⟨a, b, e, (k.own _ (within .global) _ (entries _ _ (by decide))).trans h⟩
    documentMethods := ⟨s, document, byId.keeps inside k (entries _ _ (by decide)), fun f hf =>
      (k.own _ inside _ (free _ _ (.method hf))).trans (methods f hf)⟩ }

end Intact

end Keeps

/-! ### Entries of records -/

/-- The keys under which records say how an evaluation stands. -/
def recordKeys : List Name := ["settled", "ok", "value", "error"]

/-- Keys that are neither numbers nor among those of nodes, of arrays and of the document are not vital. -/
theorem not_vital {keys : List Name} (words : ∀ key ∈ keys, key.val.foldl readDigit (some 0) = none)
    (apart : (∀ q ∈ nodeProperties, CodeUnits.ofString q.1 ∉ keys) ∧ (∀ f ∈ nodeMethods, CodeUnits.ofString f.1 ∉ keys) ∧
      (∀ f ∈ bridgeFunctions, CodeUnits.ofString f.1 ∉ keys) ∧ (∀ f ∈ arrayMethods, CodeUnits.ofString f.1 ∉ keys) ∧
      (∀ q ∈ documentParts, CodeUnits.ofString q.1 ∉ keys) ∧ ∀ key ∈ [numberKey, "style", parentKey], key ∉ keys)
    {key : Name} (vital : Vital key) : key ∉ keys := by
  obtain ⟨properties, methods, bridge, arrays, parts, own⟩ := apart
  cases vital with
  | item i =>
    intro h
    cases (foldl_indexKey i).symm.trans (words _ h)
  | property hq => exact properties _ hq
  | method hf => exact methods _ hf
  | bridge hf => exact bridge _ hf
  | array hf => exact arrays _ hf
  | part hq => exact parts _ hq
  | own hk => exact own _ hk

theorem not_record_of_vital {key : Name} : Vital key → key ∉ recordKeys := not_vital (by decide +kernel) (by decide +kernel)

theorem not_entry_of_vital {key : Name} : Vital key → key ∉ entryKeys := not_vital (by decide +kernel) (by decide +kernel)

/-- Setting properties of an object one after another changes no others. -/
theorem Keeps.setAll (r : Ref) (parts : List (Name × Value)) (os : Array Obj) :
    Keeps (fun s key => s = r ∧ key ∈ parts.map (·.1)) os
      (os.modify r fun o => parts.foldl (fun o (part, v) => o.setProperty part (.plain v)) o) := by
  induction parts generalizing os with
  | nil =>
    have same : os.modify r (fun o => o) = os := Array.ext_getElem? fun i => by
      rw [Array.getElem?_modify]
      split <;> simp
    exact .of_same (Nat.le_of_eq (congrArg Array.size same.symm)) fun s _ => congrArg (objectAt · s) same
  | cons part parts ih =>
    have split : (os.modify r fun o => (part :: parts).foldl (fun o (part, v) => o.setProperty part (.plain v)) o) =
        (os.modify r (·.setProperty part.1 (.plain part.2))).modify r
          fun o => parts.foldl (fun o (part, v) => o.setProperty part (.plain v)) o := Array.ext_getElem? fun i => by
      rw [Array.getElem?_modify, Array.getElem?_modify, Array.getElem?_modify]
      split <;> simp [Option.map_map, Function.comp_def]
    rw [split]
    refine ((Keeps.set (.plain part.2)).mono ?_).trans ((ih _).mono ?_)
    · rintro s key ⟨rfl, rfl⟩
      exact ⟨rfl, List.mem_cons_self⟩
    · rintro s key ⟨rfl, hk⟩
      exact ⟨rfl, List.mem_cons_of_mem _ hk⟩

theorem Entry.keeps_into (e : Entry) (r : Ref) (os : Array Obj) :
    Keeps (fun s key => s = r ∧ key ∈ recordKeys) os (os.modify r e.into) := by
  have keys : ∀ key ∈ e.parts.map (·.1), key ∈ recordKeys := by
    cases e with
    | success v => exact (by decide +kernel : ∀ key ∈ (["settled", "ok", "value"] : List Name), key ∈ recordKeys)
    | failure => exact (by decide +kernel : ∀ key ∈ (["settled"] : List Name), key ∈ recordKeys)
    | reason v => exact (by decide +kernel : ∀ key ∈ (["error"] : List Name), key ∈ recordKeys)
  exact (Keeps.setAll r e.parts os).mono fun s key h => ⟨h.1, keys key h.2⟩

/-! ### Sparing -/

/-- What belongs to nodes stays whole, and the document and the wrappers that are kept stay the same. -/
structure Realm.Spares (m m' : Realm) : Prop where
  whole : m'.Whole
  items : m.KeepsItems m'
  document : m'.document = m.document

theorem Realm.Spares.trans (h : m.Spares m') (h' : m'.Spares m'') : m.Spares m'' :=
  ⟨h'.whole, fun i p own => h'.items i p (h.items i p own), h'.document.trans h.document⟩

theorem Realm.Whole.spares (W : m.Whole) (l : m.Later m') (items : m.KeepsItems m') : m.Spares m' :=
  ⟨W.later l, items, l.document⟩

theorem Realm.Whole.spares_of_eq (W : m.Whole) (objects : m'.objects = m.objects) (document : m'.document = m.document)
    (scopes : m'.scopes = m.scopes) : m.Spares m' := by
  refine W.spares ⟨Nat.le_of_eq (congrArg Array.size objects.symm), fun r _ => .inl ?_, document, scopes⟩ fun i p own => ?_
  · rw [objects]
  · rw [objects]
    exact own

theorem Realm.Whole.spares_enter (W : m.Whole) (r : Ref) (e : Entry) : m.Spares (m.enter r e) := by
  have keeps := e.keeps_into r m.objects
  refine ⟨W.keeps keeps (fun s key vital h => not_record_of_vital vital h.2) ?_, fun i p own => ?_, rfl⟩
  · have apart : ∀ key ∈ entryKeys, key ∉ recordKeys := by decide +kernel
    exact fun s key hk h => apart key hk h.2
  · exact (keeps.own _ (lt_size_of_own own) _ fun h => not_record_of_vital (.item i) h.2).trans own

open Classical in
/-- A script is run so that it breaks off where it would touch what nodes rest on, once that is there. -/
noncomputable def Finding.caring : Finding := .restricted fun m m' => decide (m.Whole → m.Spares m')

theorem Finding.allows_caring : Finding.caring.Allows m m' ↔ (m.Whole → m.Spares m') := by
  classical exact decide_eq_true_iff

/-- A script that is to leave nodes alone does, however it ends. -/
theorem Run.spares (step : Run α) (c : Context) (W : w.realm.Whole) :
    w.realm.Spares (finalWorld (step.act .caring c w)).realm := by
  refine step.stepwise.keeps (R := fun u v => u.realm.Whole → u.realm.Spares v.realm) ?_ ?_ ?_ ?_ ?_ ?_ w W
  · exact fun _ W => W.spares_of_eq rfl rfl rfl
  · exact fun first next W => (first W).trans (next (first W).whole)
  · exact fun _ _ _ allowed => Finding.allows_caring.mp allowed
  · exact fun r e _ W => W.spares_enter r e
  · exact fun _ _ W => W.spares_of_eq rfl rfl rfl
  · exact fun _ _ W => W.spares_of_eq rfl rfl rfl

/-- Making wrappers is allowed to a script that is to leave nodes alone. -/
theorem Finding.allowsWrappers_caring (W : m.Whole) : Finding.caring.AllowsWrappers m where
  frames _ _ := allows_caring.mpr fun W => W.spares_of_eq rfl rfl rfl
  later _ _ later₁ later₂ items := allows_caring.mpr fun _ =>
    ⟨W.later later₂, items, later₂.document.trans later₁.document.symm⟩

/-- From one realm of a window another is reached: scripts ran, of one evaluation or of several, and left nodes alone. -/
inductive Realm.Reaches (m : Realm) : Realm → Prop
  | refl : Reaches m m
  | step {α : Type} {w : World} (first : Reaches m w.realm) (step : Run α) (c : Context)
    (cares : step.act .caring c w = step c w) : Reaches m (finalWorld (step c w)).realm

theorem Realm.Reaches.spares (W : m.Whole) (h : m.Reaches m') : m.Spares m' := by
  induction h with
  | refl => exact W.spares_of_eq rfl rfl rfl
  | step _ step c cares ih =>
    rw [← cares]
    exact ih.trans (step.spares c ih.whole)

theorem Realm.Reaches.trans (h : m.Reaches m') (h' : m'.Reaches m'') : m.Reaches m'' := by
  induction h' with
  | refl => exact h
  | step _ step c cares ih => exact .step ih step c cares

/-! ### A realm to begin with -/

/-- Builds what scripts need to go about in a document and to come to it by its name. -/
def equip : Build Ref := do
  let r ← furnish
  Build.set Intrinsic.global.ref "String" (.hidden (.object (← Build.native .textMake "String" 1)))
  Build.set r "getElementById" (.plain (.object (← Build.native (.node .elementById) "" 1)))
  Build.set Intrinsic.global.ref "document" (.plain (.object r))
  return r

/-- A realm in which scripts can ask a document. -/
def Realm.equipped : Realm :=
  { (default : Realm) with objects := (equip.run intrinsicObjects).2, document := .object (equip.run intrinsicObjects).1 }

theorem equip_run : ∃ r os os', furnish.run intrinsicObjects = (r, os) ∧ equip.run intrinsicObjects = (r, os') ∧
    Keeps (fun _ key => key ∈ entryKeys) os os' ∧ HasMethod os' Intrinsic.global.ref "String" .textMake ∧
    HasMethod os' r "getElementById" (.node .elementById) ∧
    (objectAt os' Intrinsic.global.ref).own? "document" = some (.plain (.object r)) := by
  obtain ⟨r, os, run, keeps, -, -, -, -, wrapper, plain, -⟩ := furnish_run
  have within : Intrinsic.global.ref < os.size := Nat.lt_of_lt_of_le (by decide) keeps.size
  have plainGlobal (key : Name) : (objectAt os Intrinsic.global.ref).inherent? key = none :=
    (keeps.inherent _ (by decide) key).trans rfl
  let naming : Build Ref := do
    Build.set Intrinsic.global.ref "document" (.plain (.object r))
    return r
  obtain ⟨g₁, os₁, run₁, hg₁, own₁, keeps₁⟩ := set_native_run .textMake "String" "String" 1 (fun g => .hidden (.object g))
    (do
      Build.set r "getElementById" (.plain (.object (← Build.native (.node .elementById) "" 1)))
      naming) within (plainGlobal _)
  have within₁ := Nat.lt_of_lt_of_le within keeps₁.size
  have inside₁ := Nat.lt_of_lt_of_le wrapper.within keeps₁.size
  obtain ⟨g₂, os₂, run₂, hg₂, own₂, keeps₂⟩ := set_native_run (.node .elementById) "" "getElementById" 1
    (fun g => .plain (.object g)) naming inside₁ ((keeps₁.inherent _ wrapper.within _).trans (plain _))
  have within₂ := Nat.lt_of_lt_of_le within₁ keeps₂.size
  have inside₂ := Nat.lt_of_lt_of_le inside₁ keeps₂.size
  let os₃ := os₂.modify Intrinsic.global.ref (·.setProperty "document" (.plain (.object r)))
  have keeps₃ : Keeps (fun s key => s = Intrinsic.global.ref ∧ key = "document") os₂ os₃ := .set _
  have entry {key : Name} (h : key ∈ entryKeys) {R : Prop} {key' : Name} (same : R ∧ key' = key) : key' ∈ entryKeys :=
    same.2 ▸ h
  refine ⟨r, os, os₃, run, ?_, ?_, ?_, ?_, ?_⟩
  · rw [equip]
    refine (build_bind run).trans ?_
    refine run₁.trans (run₂.trans rfl)
  · exact ((keeps₁.mono fun _ _ => entry (by decide)).trans (keeps₂.mono fun _ _ => entry (by decide))).trans
      (keeps₃.mono fun _ _ => entry (by decide))
  · have string : HasMethod os₁ Intrinsic.global.ref "String" .textMake := ⟨g₁, true, false, true, own₁, hg₁⟩
    exact (string.keeps within₁ keeps₂ fun h => absurd h.2 (by decide +kernel)).keeps within₂ keeps₃
      fun h => absurd h.2 (by decide +kernel)
  · have byId : HasMethod os₂ r "getElementById" (.node .elementById) := ⟨g₂, true, true, true, own₂, hg₂⟩
    exact byId.keeps inside₂ keeps₃ fun h => absurd h.2 (by decide +kernel)
  · have plain₂ := (keeps₂.inherent _ within₁ "document").trans ((keeps₁.inherent _ within _).trans (plainGlobal _))
    rw [objectAt_modify_self within₂, own_setProperty plain₂, if_pos rfl]

theorem Realm.equipped_whole : Realm.equipped.Whole := by
  obtain ⟨r, os, os', furnished, equipped, keeps, string, byId, named⟩ := equip_run
  have start : Realm.equipped = { Realm.furnished with objects := os' } := by
    rw [Realm.equipped, Realm.furnished, equipped, furnished]
  have objects : Realm.furnished.objects = os := by rw [Realm.furnished, furnished]
  have document : Realm.furnished.document = .object r := by rw [Realm.furnished, furnished]
  obtain ⟨s, os₁, run, -, -, -, -, methods, wrapper, -, -⟩ := furnish_run
  obtain ⟨rfl, rfl⟩ := Prod.mk.inj (run.symm.trans furnished)
  rw [← objects] at keeps methods wrapper
  have free (t : Ref) (key : Name) (vital : Vital key) : key ∉ entryKeys := not_entry_of_vital vital
  have opened := wrapper.keeps keeps free
  have whole : ({ Realm.furnished with objects := os' } : Realm).Whole := {
    toIntact := Realm.furnished_intact.keeps keeps free
    methods := fun f hf => (methods f hf).keeps (Nat.lt_of_lt_of_le (by decide) Realm.furnished_intact.size) keeps
      (free Intrinsic.nodes.ref _ (.method hf))
    texts := string
    named := ⟨true, true, true, document ▸ named⟩
    documentMethods := ⟨s, document, byId, opened.methods⟩ }
  exact start ▸ whole

end Pagewalk.Script
