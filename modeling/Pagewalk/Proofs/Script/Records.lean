import Pagewalk.Proofs.Script.Inversion

/-!
# What stands in a record

The record of an evaluation is an object like others, so scripts could write to it. Where they do not, and leave it
under its name in the outermost scope, it holds what was entered there (`Run.holds`). Entries are made by the functions
that settle the record. These are made together with it, and none is made later; those that were there before settle
earlier records (`Realm.Tidy.isolates`), and when they are called they leave this one alone (`settler_untouched`).
-/

namespace Pagewalk.Script

open Text

variable {α β : Type} {l : Finding} {c : Context} {w : World} {m m' : Realm} {own : Ref} {es : List Entry}

/-! ### What a record says -/

/-- What the parts of a record hold. -/
structure Record where
  settled : Bool := false
  ok : Bool := false
  value : Value := .undefined
  error : Value := .emptyText

/-- What a record says after an entry. -/
def Record.enter (st : Record) : Entry → Record
  | .success v => { st with settled := true, ok := true, value := v }
  | .failure => { st with settled := true }
  | .reason v => { st with error := v }

def Record.after (es : List Entry) : Record := es.foldl enter {}

def recordAfter (es : List Entry) : Obj := es.foldl (fun o e => e.into o) pendingRecord

namespace Obj

/-- An object is a record that says this. -/
structure Shows (o : Obj) (st : Record) : Prop where
  shape : o.shape = .plain
  settled : o.own? "settled" = some (.plain (.bool st.settled))
  ok : o.own? "ok" = some (.plain (.bool st.ok))
  value : o.own? "value" = some (.plain st.value)
  error : o.own? "error" = some (.plain st.error)

variable {o : Obj} {st : Record}

theorem own_setProperty_plain (h : o.shape = .plain) (key key' : Name) (p : Property) :
    (o.setProperty key p).own? key' = if key = key' then some p else o.own? key' :=
  own_setProperty (by rw [Obj.inherent?, h]) key p

theorem shows_pendingRecord : pendingRecord.Shows {} := by
  constructor <;> simp +decide [pendingRecord, own_setProperty_plain, shape_setProperty, Obj.ofShape]

theorem Shows.into (h : o.Shows st) (e : Entry) : (e.into o).Shows (st.enter e) := by
  obtain ⟨shape, settled, ok, value, error⟩ := h
  cases e <;> constructor <;>
    simp +decide [Entry.into, Entry.parts, Record.enter, own_setProperty_plain, shape_setProperty, *]

theorem shows_recordAfter (es : List Entry) : (recordAfter es).Shows (.after es) := by
  suffices all : ∀ (o : Obj) (st : Record), o.Shows st →
      (es.foldl (fun o e => e.into o) o).Shows (es.foldl Record.enter st) from all _ _ shows_pendingRecord
  induction es with
  | nil => exact fun _ _ h => h
  | cons e es ih => exact fun _ _ h => ih _ _ (h.into e)

theorem Shows.isRecord (h : o.Shows st) : o.isRecord = true := by
  rw [Obj.isRecord, h.shape]
  simp only [List.all_cons, List.all_nil, h.settled, h.ok, h.value, h.error, Property.plain, Bool.and_self]

end Obj

theorem isRecord_of_pending {r : Ref} (h : m.objects[r]? = some pendingRecord) :
    (objectAt m.objects r).isRecord = true := by
  rw [objectAt, h]
  exact Obj.shows_pendingRecord.isRecord

/-! ### Scripts that leave a record alone -/

/-- A record stands under the name by which it is read. -/
def Realm.Names (m : Realm) (own : Ref) : Prop :=
  ∃ isWritable isEnumerable isConfigurable, (objectAt m.objects Intrinsic.global.ref).own? evaluationKey =
    some (.data (.object own) isWritable isEnumerable isConfigurable)

/-- A record stands under its name and holds what was entered there. -/
structure Realm.Holds (m : Realm) (own : Ref) (es : List Entry) : Prop where
  named : m.Names own
  record : m.objects[own]? = some (recordAfter es)

/-- A record and its name are as they were. -/
structure Realm.Untouched (own : Ref) (m m' : Realm) : Prop where
  record : m'.objects[own]? = m.objects[own]?
  named : m.Names own → m'.Names own

theorem Realm.Untouched.of_objects (h : m'.objects = m.objects) : m.Untouched own m' := by
  refine ⟨by rw [h], fun named => ?_⟩
  rw [Names, h]
  exact named

open Classical in
/-- A script is run so that it breaks off where it would touch a record that is there, or its name. -/
noncomputable def Finding.sparing (own : Ref) : Finding :=
  .restricted fun m m' => decide (own < m.objects.size → m.Untouched own m')

theorem Finding.allows_sparing :
    (Finding.sparing own).Allows m m' ↔ (own < m.objects.size → m.Untouched own m') := by
  classical exact decide_eq_true_iff

theorem Realm.Names.enter (h : m.Names own) (r : Ref) (e : Entry) : (m.enter r e).Names own := by
  obtain ⟨a, b, d, h⟩ := h
  refine ⟨a, b, d, ?_⟩
  by_cases same : Intrinsic.global.ref = r
  · subst same
    have others (o : Obj) : (e.into o).own? evaluationKey = o.own? evaluationKey := by
      cases e <;> simp +decide [Entry.into, Entry.parts, own_setProperty_ne]
    rw [Realm.enter, objectAt_modify_self (lt_size_of_own h), others]
    exact h
  · rw [Realm.enter, objectAt_modify_ne same]
    exact h

theorem Realm.getElem?_enter (m : Realm) (r : Ref) (e : Entry) :
    (m.enter r e).objects[own]? = if r = own then m.objects[own]?.map e.into else m.objects[own]? :=
  Array.getElem?_modify

theorem Realm.settles_enter (m : Realm) (r : Ref) (e : Entry) (f : Ref) : (m.enter r e).settles? f = m.settles? f := by
  rcases Nat.lt_or_ge f m.objects.size with inside | outside
  · exact (m.upholds_enter r e).settles f inside
  · rw [settles?_eq_none_of_le outside, settles?_eq_none_of_le (Nat.le_trans (Nat.le_of_eq Array.size_modify) outside)]

theorem Realm.untouched_enter {r : Ref} (other : r ≠ own) (e : Entry) : m.Untouched own (m.enter r e) :=
  ⟨by rw [getElem?_enter, if_neg other], fun named => named.enter r e⟩

theorem Realm.Holds.untouched (h : m.Holds own es) (u : m.Untouched own m') : m'.Holds own es :=
  ⟨u.named h.named, u.record.trans h.record⟩

theorem Realm.Holds.lt_size (h : m.Holds own es) : own < m.objects.size :=
  (Array.getElem?_eq_some_iff.mp h.record).1

theorem Realm.Holds.enter (h : m.Holds own es) (e : Entry) : (m.enter own e).Holds own (es ++ [e]) := by
  refine ⟨h.named.enter own e, ?_⟩
  rw [getElem?_enter, if_pos rfl, h.record, recordAfter, recordAfter, List.foldl_append]
  rfl

/-- A script that is to leave a record and its name alone leaves there what was entered. -/
theorem Run.holds (step : Run α) (c : Context) (h : w.realm.Holds own es) :
    ∃ es', (finalWorld (step.act (.sparing own) c w)).realm.Holds own (es ++ es') := by
  refine step.stepwise.keeps
    (R := fun u v => ∀ es, u.realm.Holds own es → ∃ es', v.realm.Holds own (es ++ es')) ?_ ?_ ?_ ?_ ?_ ?_ w es h
  · exact fun u es h => ⟨[], by rwa [List.append_nil]⟩
  · intro u v v' first next es h
    obtain ⟨es', h⟩ := first es h
    obtain ⟨es'', h⟩ := next _ h
    exact ⟨es' ++ es'', by rwa [← List.append_assoc]⟩
  · intro f u _ allowed es h
    have untouched := Finding.allows_sparing.mp allowed h.lt_size
    exact ⟨[], by rw [List.append_nil]; exact h.untouched untouched⟩
  · intro r e u es h
    by_cases same : r = own
    · subst same
      exact ⟨[e], h.enter e⟩
    · exact ⟨[], by rw [List.append_nil]; exact h.untouched (Realm.untouched_enter same e)⟩
  · exact fun d u es h => ⟨[], by rw [List.append_nil]; exact h.untouched (.of_objects rfl)⟩
  · exact fun r u es h => ⟨[], by rwa [List.append_nil]⟩

theorem Run.holds_of_ok {step : Run α} {a : α} {w' : World} (run : step.act (.sparing own) c w = .ok a w')
    (h : w.realm.Holds own es) : ∃ es', w'.realm.Holds own (es ++ es') := by
  have holds := step.holds c h
  rwa [run] at holds

/-! ### Functions that settle records -/

theorem Shape.eq_of_settles (s : Shape) {r : Ref} {ok : Bool} (h : s.settles? = some (r, ok)) :
    ∃ isMaker, s = .native (.environment (.settle r ok)) isMaker := by
  unfold settles? at h
  split at h
  next =>
    cases h
    exact ⟨_, rfl⟩
  next => cases h

theorem shape_of_settles {f r : Ref} {ok : Bool} (h : m.settles? f = some (r, ok)) :
    ∃ isMaker, (objectAt m.objects f).shape = .native (.environment (.settle r ok)) isMaker := by
  obtain ⟨o, there, shape⟩ := Option.bind_eq_some_iff.mp h
  rw [objectAt, there]
  exact o.shape.eq_of_settles shape

/-- Functions settle records that were there before them. -/
def Realm.Tidy (m : Realm) : Prop := ∀ f r ok, m.settles? f = some (r, ok) → r < f

/-- Two functions settle a record, and those that were there before it settle earlier records. -/
structure Realm.Isolates (m : Realm) (own : Ref) : Prop where
  settlers : ∀ f ok, m.settles? f = some (own, ok) ↔ f = settler own ok
  earlier : ∀ f r ok, m.settles? f = some (r, ok) → f < own → r < own

theorem Realm.Tidy.grows (h : m.Tidy) (g : m.Grows m') : m'.Tidy := by
  intro f r ok settles
  rcases Nat.lt_or_ge f m.objects.size with inside | later
  · exact h f r ok ((g.settles f inside).symm.trans settles)
  · exact (g.fresh f r ok later settles).2

/-- The realm with a record that was opened. -/
def Realm.opened (m : Realm) : Realm := { m with objects := m.objects ++ recordObjects m.objects.size }

theorem Realm.record_opened (m : Realm) : m.opened.objects[m.objects.size]? = some pendingRecord := by
  rw [opened, Array.getElem?_append_right (Nat.le_refl _), Nat.sub_self]
  rfl

theorem Realm.settles_settler (m : Realm) (ok : Bool) :
    m.opened.settles? (settler m.objects.size ok) = some (m.objects.size, ok) := by
  have place (i : Nat) : m.opened.settles? (m.objects.size + i) =
      (recordObjects m.objects.size)[i]?.bind fun o => o.shape.settles? := by
    rw [settles?, opened, Array.getElem?_append_right (Nat.le_add_right _ _), Nat.add_sub_cancel_left]
  cases ok
  · exact (place 4).trans (congrArg Shape.settles? (shape_settlerObject _ _))
  · exact (place 2).trans (congrArg Shape.settles? (shape_settlerObject _ _))

/-- Whatever scripts do after a record was opened, two functions settle it, and no other. -/
theorem Realm.Tidy.isolates (h : m.Tidy) (g : m.opened.Grows m') : m'.Isolates m.objects.size := by
  have size : m.opened.objects.size = m.objects.size + 5 := Array.size_append
  have grows : m.Grows m' := (upholds_recordObjects m).toGrows.trans g
  have within (ok : Bool) : settler m.objects.size ok < m.opened.objects.size := by
    cases ok <;> simp [settler, size]
  refine ⟨fun f ok => ⟨fun settles => ?_, ?_⟩, fun f r ok settles before => ?_⟩
  · rcases Nat.lt_or_ge f m.objects.size with before | notBefore
    · have less := h f _ ok ((grows.settles f before).symm.trans settles)
      exact absurd (Nat.lt_trans less before) (Nat.lt_irrefl _)
    · rcases Nat.lt_or_ge f m.opened.objects.size with inside | later
      · have there := (g.settles f inside).symm.trans settles
        rw [settles?, opened, Array.getElem?_append_right notBefore] at there
        obtain ⟨-, place⟩ := settles_recordObjects there
        rw [← Nat.add_sub_of_le notBefore, place]
      · have new := (g.fresh f _ ok later settles).1
        omega
  · rintro rfl
    exact (g.settles _ (within ok)).trans (m.settles_settler ok)
  · exact Nat.lt_trans (h f r ok ((grows.settles f before).symm.trans settles)) before

/-! ### Calls of functions that settle records -/

theorem Realm.Untouched.refl (m : Realm) : m.Untouched own m := .of_objects rfl

theorem Realm.Untouched.trans {m'' : Realm} (u : m.Untouched own m') (u' : m'.Untouched own m'') :
    m.Untouched own m'' := ⟨u'.record.trans u.record, fun h => u'.named (u.named h)⟩

/-- From here a step leaves a record and its name as they are, however it ends. -/
def Spares (own : Ref) (step : Run α) (l : Finding) (c : Context) (w : World) : Prop :=
  w.realm.Untouched own (finalWorld (step.act l c w)).realm

section Spares

variable {step : Run α} {next : α → Run β} {values : Nat}

theorem Spares.of_ok {a : α} {w' : World} (h : step.act l c w = .ok a w') (u : w.realm.Untouched own w'.realm) :
    Spares own step l c w := by
  rw [Spares, h]
  exact u

theorem Spares.bind (first : Spares own step l c w)
    (rest : ∀ a w', step.act l c w = .ok a w' → Spares own (next a) l c w') : Spares own (step >>= next) l c w := by
  rw [Spares] at first
  cases h : step.act l c w with
  | ok a w' =>
    rw [h] at first
    rw [Spares, bind_of_ok h]
    exact first.trans (rest a w' h)
  | error e w' =>
    rw [h] at first
    change w.realm.Untouched own (finalWorld (step.act.bind (fun a => (next a).act) l c w)).realm
    rw [Act.bind_of_error h]
    exact first

theorem Spares.of_bind {a : α} (h : step.act l c w = .ok a w) (rest : Spares own (next a) l c w) :
    Spares own (step >>= next) l c w := by
  rw [Spares, bind_of_ok h]
  exact rest

theorem spares_modifyRealm {f : Realm → Realm} {upholds : ∀ m : Realm, m.Upholds (f m)}
    (h : (f w.realm).objects = w.realm.objects) : Spares own (modifyRealm f upholds) l c w := by
  rw [Spares]
  rcases l.change_cases f c w with ⟨-, run⟩ | run
  · rw [show (modifyRealm f upholds).act l c w = _ from run]
    exact .of_objects h
  · rw [show (modifyRealm f upholds).act l c w = _ from run]
    exact .refl _

theorem spares_checkLimits : Spares own (checkLimits values) l c w := by
  rw [Spares, checkLimits, bind_of_ok read_run]
  split_ifs <;> exact .refl _

/-- A step in a frame of its own spares what it spares there. -/
theorem Spares.inFrame (h : Spares own step l (c.inner values) w.framed) : Spares own (inFrame values step) l c w := by
  rw [Script.inFrame]
  refine .of_bind realm_run (.bind (spares_modifyRealm rfl) fun _ w' first => ?_)
  cases eq_of_modifyRealm first
  refine .bind ?_ fun outcome u _ => .bind (spares_modifyRealm rfl) fun _ u' _ => ?_
  · rw [Spares] at h ⊢
    rw [attempt_run]
    cases run : step.act l (c.inner values) w.framed <;> rw [run] at h <;> exact h
  · cases outcome <;> exact Realm.Untouched.refl _

theorem Spares.asCall {arguments registers : Nat} (h : Spares own step l (c.inner (2 + arguments + registers)) w.framed) :
    Spares own (asCall arguments registers step) l c w :=
  .bind spares_checkLimits fun _ w' checked => by
    cases eq_of_checkLimits checked
    exact h.inFrame

end Spares

theorem enter_run {k : Kernel} {r : Ref} (e : Entry) (record : (objectAt w.realm.objects r).isRecord = true) :
    (k.enter r e).act l c w = .ok () { w with realm := w.realm.enter r e } := by
  rw [Kernel.enter, bind_of_ok (object_run r), if_pos record]
  rfl

/-- A call of a function that settles another record leaves this one alone, if describing why the other evaluation
failed does. -/
def SettlersSpare (own : Ref) : Prop :=
  ∀ (l : Finding) (c : Context) (w : World) (n : Nat) (f r : Ref) (ok : Bool) (v : Value),
    w.realm.settles? f = some (r, ok) → r ≠ own → (objectAt w.realm.objects r).isRecord = true →
    (ok = false →
      let failed : World := { w.framed with realm := w.framed.realm.enter r .failure }
      let described := holding 2 ((kernel n).describe v)
      Spares own described l (c.inner 4) failed ∧
        (objectAt (finalWorld (described.act l (c.inner 4) failed)).realm.objects r).isRecord = true) →
    Spares own ((kernel (n + 1)).apply (.object f) .undefined [v]) l c w

theorem settlersSpare (own : Ref) : SettlersSpare own := by
  intro l c w n f r ok v settles other record described
  obtain ⟨isMaker, shape⟩ := shape_of_settles settles
  have called : ((kernel (n + 1)).apply (.object f) .undefined [v]).act l c w =
      (asCall 1 1 (do (kernel n).runNative (.environment (.settle r ok)) (← looseThis .undefined) [v])).act l c w := by
    change ((kernel n).callValue (.object f) .undefined [v]).act l c w = _
    rw [Kernel.callValue, bind_of_ok (object_run f), shape]
    rfl
  rw [Spares, called]
  refine Spares.asCall ?_
  change Spares own (do (kernel n).settle r ok v; return Value.undefined) l (c.inner 4) w.framed
  refine .bind ?_ fun _ _ _ => Realm.Untouched.refl _
  cases ok with
  | true =>
    change Spares own ((kernel n).enter r (.success v)) l (c.inner 4) w.framed
    exact .of_ok (enter_run _ record) (Realm.untouched_enter other _)
  | false =>
    obtain ⟨spares, still⟩ := described rfl
    change Spares own (do (kernel n).enter r .failure; (kernel n).enter r (.reason (← holding 2 ((kernel n).describe v))))
      l (c.inner 4) w.framed
    refine .bind (.of_ok (enter_run _ record) (Realm.untouched_enter other _)) fun _ u marked => ?_
    cases (enter_run (k := kernel n) (l := l) (c := c.inner 4) (w := w.framed) _ record).symm.trans marked
    refine .bind spares fun t u ran => ?_
    rw [ran] at still
    exact .of_ok (enter_run _ still) (Realm.untouched_enter other _)

end Pagewalk.Script
