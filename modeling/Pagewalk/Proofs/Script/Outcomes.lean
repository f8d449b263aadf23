import Pagewalk.Proofs.Pending
import Pagewalk.Proofs.Script.Records

/-!
# What an evaluation reads back

An evaluation puts a record of its own under a name, and reads it again when it has come to its end. Where the realm is
in order and scripts leave the record alone, what it reads is what was entered there (`answers_of_evaluate`).
-/

namespace Pagewalk.Script

open Text

variable {l : Finding} {c : Context} {w w' : World} {k : Kernel} {own : Ref} {es : List Entry}

/-! ### Beginning -/

/-- The evaluations of a realm can begin: what begins them is where it was put, the outermost scope stands in itself
under its name, and a record can be put there. -/
structure Realm.InPlace (m : Realm) : Prop where
  begins : HasMethod m.objects Intrinsic.global.ref "__hl_begin" (.environment .begin)
  plain : (objectAt m.objects Intrinsic.global.ref).shape = .plain
  itself : ∃ isWritable isEnumerable isConfigurable, (objectAt m.objects Intrinsic.global.ref).own? globalKey =
    some (.data (.object Intrinsic.global.ref) isWritable isEnumerable isConfigurable)
  record : ∃ before isEnumerable isConfigurable, (objectAt m.objects Intrinsic.global.ref).own? evaluationKey =
    some (.data before true isEnumerable isConfigurable)

theorem objectAt_opened {m : Realm} {r : Ref} (h : r < m.objects.size) :
    objectAt m.opened.objects r = objectAt m.objects r := by
  rw [objectAt, Realm.opened, Array.getElem?_append_left h]
  rfl

theorem lt_size_opened {m : Realm} {r : Ref} (h : r < m.objects.size) : r < m.opened.objects.size :=
  Nat.lt_of_lt_of_le h (upholds_recordObjects m).size

/-- A record is opened and put on what stands for the outermost scope, and what follows finds it there. -/
theorem opened_run {scope : Ref} {m : Realm} (allowed : l.Allows w.realm w.realm.opened)
    {isWritable isEnumerable isConfigurable : Bool}
    (itself : (objectAt w.realm.objects Intrinsic.global.ref).own? globalKey =
      some (.data (.object scope) isWritable isEnumerable isConfigurable))
    (put : (k.putOf (.object scope) evaluationKey (.object w.realm.objects.size) false).act l c
      { w with realm := w.realm.opened } = .ok () { w with realm := m }) {α : Type} (next : Ref → Run α) :
    (do
      let state ← openRecord
      k.putOf (← k.global globalKey) evaluationKey (.object state) false
      next state : Run α).act l c w = (next w.realm.objects.size).act l c { w with realm := m } := by
  have made : (modifyRealm (fun m => { m with objects := m.objects ++ recordObjects m.objects.size })
      upholds_recordObjects).act l c w = .ok () { w with realm := w.realm.opened } := modifyRealm_run _ _ allowed
  have opens : openRecord.act l c w = .ok w.realm.objects.size { w with realm := w.realm.opened } := by
    rw [openRecord, bind_of_ok realm_run]
    exact (bind_of_ok made _).trans rfl
  have itself' : (objectAt w.realm.opened.objects Intrinsic.global.ref).own? globalKey =
      some (.data (.object scope) isWritable isEnumerable isConfigurable) :=
    objectAt_opened (lt_size_of_own itself) ▸ itself
  have read : (k.global globalKey).act l c { w with realm := w.realm.opened } =
      .ok (.object scope) { w with realm := w.realm.opened } := global_run itself'
  exact (bind_of_ok opens _).trans ((bind_of_ok read _).trans (bind_of_ok put _))

theorem exists_opened (k : Kernel) (c : Context) (place : w.realm.InPlace) :
    ∃ m : Realm, m.Holds w.realm.objects.size [] ∧ w.realm.opened.Grows m ∧ ∀ {α : Type} (next : Ref → Run α),
      (do
        let state ← openRecord
        k.putOf (← k.global globalKey) evaluationKey (.object state) false
        next state : Run α).act (.sparing w.realm.objects.size) c w =
      (next w.realm.objects.size).act (.sparing w.realm.objects.size) c { w with realm := m } := by
  obtain ⟨a, b, d, itself⟩ := place.itself
  obtain ⟨before, e, f, named⟩ := place.record
  have inside := lt_size_of_own itself
  have same := objectAt_opened inside
  let own := w.realm.objects.size
  let m : Realm := { w.realm.opened with
    objects := w.realm.opened.objects.modify Intrinsic.global.ref (·.define evaluationKey (.data (.object own) true e f)) }
  have kept : m.objects[own]? = w.realm.opened.objects[own]? := by
    rw [Array.getElem?_modify, if_neg (Nat.ne_of_lt inside)]
  have holds : m.Holds own [] := by
    refine ⟨⟨true, e, f, ?_⟩, kept.trans w.realm.record_opened⟩
    have plain : (objectAt w.realm.opened.objects Intrinsic.global.ref).shape = .plain := same ▸ place.plain
    rw [objectAt_modify_self (lt_size_opened inside), Obj.define_of_plain plain]
    exact (Obj.own_setProperty_plain plain _ _ _).trans (if_pos rfl)
  have allowed : (Finding.sparing own).Allows w.realm.opened m :=
    Finding.allows_sparing.mpr fun _ => ⟨kept, fun _ => holds.named⟩
  have opens : (Finding.sparing own).Allows w.realm w.realm.opened :=
    Finding.allows_sparing.mpr fun less => absurd less (Nat.lt_irrefl _)
  have put := put_own_run (k := k) (c := c) (l := .sparing own) (w := { w with realm := w.realm.opened })
    (v := .object own) (same ▸ place.plain) (same ▸ named) allowed
  exact ⟨m, holds, Run.grows_of_ok put, opened_run opens itself put⟩

/-- An evaluation begins with a record of its own under the name by which it is read. -/
theorem holds_of_begin {source : Value} (place : w.realm.InPlace)
    (h : (k.begin source).act (.sparing w.realm.objects.size) c w = .ok () w') :
    (∃ es, w'.realm.Holds w.realm.objects.size es) ∧ w.realm.opened.Grows w'.realm := by
  obtain ⟨m, holds, grows, opened⟩ := exists_opened k c place
  have rest := (opened _).symm.trans h
  exact ⟨Run.holds_of_ok rest holds, grows.trans (Run.grows_of_ok rest)⟩

theorem holds_of_callBegin {n : Nat} {source v : Value} (place : w.realm.InPlace)
    (h : (byWindow ((kernel (n + 1)).callGlobal "__hl_begin" [source])).act (.sparing w.realm.objects.size) c w =
      .ok v w') : (∃ es, w'.realm.Holds w.realm.objects.size es) ∧ w.realm.opened.Grows w'.realm := by
  obtain ⟨this, u, ran, rfl⟩ :=
    exists_of_callGlobal (c := { c with frames := 1, stack := 2 }) (f := .environment .begin) place.begins rfl h
  change (do (kernel n).begin source; return Value.undefined : Run Value).act _ _ _ = _ at ran
  obtain ⟨⟨⟩, u', begun, done⟩ := exists_of_bind ran
  cases done
  have framed : w.framed.realm.InPlace := ⟨place.begins, place.plain, place.itself, place.record⟩
  obtain ⟨⟨es, holds⟩, grows⟩ := holds_of_begin framed begun
  have before : w.realm.opened.Grows w.framed.realm.opened := .of_objects rfl
  exact ⟨⟨es, holds.untouched (.of_objects rfl)⟩, before.trans (grows.trans (.of_objects rfl))⟩

/-! ### Scripts that end at once -/

/-- What begins an evaluation up to the end of its script, with whose value it ends. -/
def Kernel.completion (k : Kernel) (source : Value) : Run Value := do
  let state ← openRecord
  k.putOf (← k.global globalKey) evaluationKey (.object state) false
  k.callGlobal "eval" [source]

theorem Record.after_append (es es' : List Entry) : after (es ++ es') = es'.foldl enter (after es) := List.foldl_append

/-- A script whose value is not thenable has its record settled at once. -/
theorem settled_of_begin {source v : Value} {w₁ w₂ : World} (place : w.realm.InPlace)
    (completes : (k.completion source).act (.sparing w.realm.objects.size) c w = .ok v w₁)
    (plain : (k.isThenable v).act (.sparing w.realm.objects.size) c w₁ = .ok false w₂)
    (h : (k.begin source).act (.sparing w.realm.objects.size) c w = .ok () w') :
    ∃ es, w'.realm.Holds w.realm.objects.size es ∧ (Record.after es).settled = true := by
  obtain ⟨m, holds, -, opened⟩ := exists_opened k c place
  have called := (opened fun _ => k.callGlobal "eval" [source]).symm.trans completes
  have caught : (catching (Except.ok <$> k.callGlobal "eval" [source]) fun e => return Except.error e :
      Run (Except Value Value)).act (.sparing w.realm.objects.size) c { w with realm := m } = .ok (.ok v) w₁ :=
    Act.tryCatch_of_ok ((bind_of_ok called _).trans rfl)
  obtain ⟨es₁, holds⟩ := Run.holds_of_ok called holds
  obtain ⟨es₂, holds⟩ := Run.holds_of_ok plain holds
  have record : (objectAt w₂.realm.objects w.realm.objects.size).isRecord = true := by
    rw [objectAt, holds.record]
    exact (Obj.shows_recordAfter _).isRecord
  have settles := (opened _).symm.trans h
  rw [bind_of_ok caught] at settles
  dsimp only at settles
  rw [bind_of_ok plain] at settles
  obtain rfl : _ = w' := EStateM.Result.ok.inj ((enter_run (.success v) record).symm.trans settles) |>.2
  refine ⟨_, holds.enter (.success v), ?_⟩
  rw [Record.after_append]
  rfl

theorem settled_of_callBegin {n : Nat} {source v v' : Value} {w₁ w₂ : World} (place : w.realm.InPlace)
    (completes : ((kernel n).completion source).act (.sparing w.realm.objects.size)
      (Context.inner { c with frames := 1, stack := 2 } 7) w.framed = .ok v w₁)
    (plain : ((kernel n).isThenable v).act (.sparing w.realm.objects.size)
      (Context.inner { c with frames := 1, stack := 2 } 7) w₁ = .ok false w₂)
    (h : (byWindow ((kernel (n + 1)).callGlobal "__hl_begin" [source])).act (.sparing w.realm.objects.size) c w =
      .ok v' w') : ∃ es, w'.realm.Holds w.realm.objects.size es ∧ (Record.after es).settled = true := by
  obtain ⟨this, u, ran, rfl⟩ :=
    exists_of_callGlobal (c := { c with frames := 1, stack := 2 }) (f := .environment .begin) place.begins rfl h
  change (do (kernel n).begin source; return Value.undefined : Run Value).act _ _ _ = _ at ran
  obtain ⟨⟨⟩, u', begun, done⟩ := exists_of_bind ran
  cases done
  have framed : w.framed.realm.InPlace := ⟨place.begins, place.plain, place.itself, place.record⟩
  obtain ⟨es, holds, settled⟩ := settled_of_begin framed completes plain begun
  exact ⟨es, holds.untouched (.of_objects rfl), settled⟩

/-! ### Reading the record -/

theorem recorded_run {part : Name} {v : Value} (holds : w.realm.Holds own es)
    (there : (recordAfter es).own? part = some (.plain v)) : (k.recorded part).act l c w = .ok v w := by
  obtain ⟨a, b, d, named⟩ := holds.named
  have record : objectAt w.realm.objects own = recordAfter es := by
    rw [objectAt, holds.record]
    rfl
  refine (bind_of_ok (c := { c with frames := 1, stack := 2 }) (global_run named) _).trans ?_
  exact propertyOf_own (record ▸ there)

theorem isSettled_run (holds : w.realm.Holds own es) :
    k.driving.isSettled.act l c w = .ok (Record.after es).settled w :=
  (bind_of_ok (recorded_run holds (Obj.shows_recordAfter es).settled) _).trans rfl

/-- What is settled stays so. -/
theorem Record.settled_after_append {es : List Entry} (h : (after es).settled = true) (es' : List Entry) :
    (after (es ++ es')).settled = true := by
  rw [after_append]
  generalize after es = st at h
  induction es' generalizing st with
  | nil => exact h
  | cons e es' ih => exact ih _ (by cases e <;> first | rfl | exact h)

/-- An evaluation whose record is settled has ended when its jobs have run, and no timer runs, however many may. -/
theorem drive_of_settled (holds : w.realm.Holds own es) (settled : (Record.after es).settled = true)
    (spared : k.driving.runJobs.act (.sparing own) c w = k.driving.runJobs c w) (most : Nat) :
    k.driving.drive most 0 c w = (do k.driving.runJobs; return .ok 0 : Run (Except Error Nat)) c w := by
  unfold Driving.drive
  cases jobs : k.driving.runJobs c w with
  | error e v => rw [bind_of_error jobs, bind_of_error jobs]
  | ok a v =>
    obtain ⟨es', later⟩ := Run.holds_of_ok (spared.trans jobs) holds
    have asked := isSettled_run (l := .own) (k := k) (c := c) later
    rw [Record.settled_after_append settled] at asked
    rw [bind_of_ok jobs, bind_of_ok jobs, bind_of_ok asked]
    rfl

/-- What the record says when driving ends: that the evaluation has ended, or else that it was pending when it was
asked the last time. -/
def DriveEnds (own : Ref) : Except Error Nat → World → Prop
  | .ok _, w => ∃ es, w.realm.Holds own es ∧ (Record.after es).settled = true
  | .error e, w => e.IsPending ∧ ∃ es more, w.realm.Holds own (es ++ more) ∧ (Record.after es).settled = false

theorem driveEnds_of_holds {left runs : Nat} {r : Except Error Nat} (holds : w.realm.Holds own es)
    (h : (k.driving.drive left runs).act (.sparing own) c w = .ok r w') : DriveEnds own r w' := by
  -- The record grows with each turn, and every question is answered by what it holds then.
  induction left generalizing runs w es with
  | zero =>
    rw [Driving.drive] at h
    obtain ⟨⟨⟩, v, jobs, h⟩ := exists_of_bind h
    obtain ⟨es', holds⟩ := Run.holds_of_ok jobs holds
    rw [bind_of_ok (isSettled_run holds)] at h
    cases settled : (Record.after (es ++ es')).settled with
    | true =>
      rw [settled] at h
      cases h
      exact ⟨_, holds, settled⟩
    | false =>
      rw [settled] at h
      cases h
      exact ⟨.inr ⟨_, rfl⟩, es ++ es', [], by rwa [List.append_nil], settled⟩
  | succ left ih =>
    rw [Driving.drive] at h
    obtain ⟨⟨⟩, v, jobs, h⟩ := exists_of_bind h
    obtain ⟨es', holds⟩ := Run.holds_of_ok jobs holds
    rw [bind_of_ok (isSettled_run holds)] at h
    cases settled : (Record.after (es ++ es')).settled with
    | true =>
      rw [settled] at h
      cases h
      exact ⟨_, holds, settled⟩
    | false =>
      rw [settled] at h
      obtain ⟨ran, u, timer, h⟩ := exists_of_bind h
      obtain ⟨es'', holds⟩ := Run.holds_of_ok timer holds
      cases ran with
      | false =>
        cases h
        exact ⟨.inl rfl, es ++ es', es'', holds, settled⟩
      | true => exact ih holds h

/-- An answer is that of a value; what an object answers is a text. -/
def Value.Answers : Value → ScriptValue → Prop
  | .undefined, a => a = .undefined
  | .null, a => a = .null
  | .bool b, a => a = .bool b
  | .number x, a => a = .number x
  | .text s, a => a = .text s.toText
  | .object _, a => ∃ t, a = .text t ∨ a = .json t

/-- How an evaluation ends whose record says this. -/
def Record.Answers (st : Record) : Except Error ScriptValue → Prop
  | .ok a => st.settled = true ∧ st.ok = true ∧ st.value.Answers a
  | .error (.evaluationFailed _) => st.settled = true ∧ st.ok = false
  | .error e => e.IsPending ∧ st.settled = false

theorem answers_of_answer {v : Value} {a : ScriptValue} (h : (k.answer v).act l c w = .ok a w') : v.Answers a := by
  cases v with
  | undefined => cases h; rfl
  | null => cases h; rfl
  | bool b => cases h; rfl
  | number x => cases h; rfl
  | text s => cases h; rfl
  | object r =>
    rw [Kernel.answer] at h
    rw [bind_of_ok (object_run r)] at h
    split at h
    · obtain ⟨t, u, -, h⟩ := exists_of_bind h
      cases h
      exact ⟨t, .inl rfl⟩
    · obtain ⟨t, u, -, h⟩ := exists_of_bind h
      cases h
      exact ⟨t, .inr rfl⟩

theorem answers_of_outcome {r : Except Error ScriptValue} {m : Realm} (holds : m.Holds own es) (here : m = w.realm)
    (settled : (Record.after es).settled = true) (h : k.outcome.act l c w = .ok r w') : (Record.after es).Answers r := by
  subst here
  have shows_ := Obj.shows_recordAfter es
  rw [Kernel.outcome, bind_of_ok (recorded_run holds shows_.ok)] at h
  cases ok : (Record.after es).ok with
  | true =>
    rw [ok] at h
    simp only [Value.isTruthy, if_true] at h
    rw [bind_of_ok (recorded_run holds shows_.value)] at h
    obtain ⟨a, u, answer, h⟩ := exists_of_bind h
    cases h
    exact ⟨settled, ok, answers_of_answer answer⟩
  | false =>
    rw [ok] at h
    simp only [Value.isTruthy, Bool.false_eq_true, if_false] at h
    obtain ⟨m, u, -, h⟩ := exists_of_bind h
    obtain ⟨t, u', -, h⟩ := exists_of_bind h
    cases h
    exact ⟨settled, ok⟩

/-- An evaluation whose scripts leave its record alone ends as the record says. -/
theorem answers_of_evaluate {n most : Nat} {source : CodeUnits} {r : Except Error ScriptValue} (place : w.realm.InPlace)
    (h : ((Evaluator.mk (kernel (n + 1)) most).evaluate source).act (.sparing w.realm.objects.size) c w = .ok r w') :
    (∃ es more, w'.realm.Holds w.realm.objects.size (es ++ more) ∧ (Record.after es).Answers r) ∧
      w.realm.opened.Grows w'.realm := by
  rw [Evaluator.evaluate] at h
  obtain ⟨⟨⟩, u, begins, h⟩ := exists_of_bind h
  obtain ⟨v, begins⟩ := exists_of_discard begins
  obtain ⟨⟨es, holds⟩, grows⟩ := holds_of_callBegin place begins
  refine ⟨?_, grows.trans (Run.grows_of_ok h)⟩
  obtain ⟨ended, u', driven, h⟩ := exists_of_bind h
  have said := driveEnds_of_holds holds driven
  cases ended with
  | error e =>
    cases h
    obtain ⟨pending, es', more, holds, unsettled⟩ := said
    refine ⟨es', more, holds, ?_⟩
    obtain rfl | ⟨n, rfl⟩ := pending
    · exact ⟨.inl rfl, unsettled⟩
    · exact ⟨.inr ⟨n, rfl⟩, unsettled⟩
  | ok runs =>
    obtain ⟨es', holds, settled⟩ := said
    obtain ⟨more, later⟩ := Run.holds_of_ok h holds
    refine ⟨es', more, later, ?_⟩
    dsimp only at h
    split at h
    · obtain ⟨⟨⟩, u'', noted, h⟩ := exists_of_bind h
      cases noted
      exact answers_of_outcome holds (by rfl) settled h
    · exact answers_of_outcome holds (by rfl) settled h

end Pagewalk.Script
