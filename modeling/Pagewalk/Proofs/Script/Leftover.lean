import Pagewalk.Proofs.Script.Origins
import Pagewalk.Proofs.Script.Outcomes

/-!
# A realm that an evaluation has left

An evaluation that was broken off leaves jobs behind, and one of them may settle its record while another evaluation is
run. Such a realm is described by what stands in it (`Realm.Leftover`). The evaluation of a script that is undefined is
followed in it to its end; what it answers depends on which record is read (`evaluate_leftover_run`).
-/

namespace Pagewalk.Script

open Text

variable {l : Finding} {c : Context} {w : World} {own : Ref}

/-- A realm in which an earlier evaluation was broken off: its record is pending and stands under the name by which it is
read. Under the name of the outermost scope stands some object. -/
structure Realm.Interrupted (m : Realm) (scope earlier : Ref) : Prop where
  begins : HasMethod m.objects Intrinsic.global.ref "__hl_begin" (.environment .begin)
  evals : HasMethod m.objects Intrinsic.global.ref "eval" .nothing
  plain : (objectAt m.objects Intrinsic.global.ref).shape = .plain
  itself : (objectAt m.objects Intrinsic.global.ref).own? globalKey = some (.plain (.object scope))
  named : (objectAt m.objects Intrinsic.global.ref).own? evaluationKey = some (.plain (.object earlier))
  record : m.objects[earlier]? = some pendingRecord

/-- The promise that the earlier evaluation waits for has been fulfilled, and the job is left that tells its record so. -/
structure Realm.Leftover (m : Realm) (scope earlier : Ref) : Prop extends m.Interrupted scope earlier where
  settles : m.settles? (settler earlier true) = some (earlier, true)
  jobs : m.jobs = [.react (some (.object (settler earlier true))) true none (.bool true)]
  laterJobs : m.laterJobs = []

/-- A way of running that allows what leaves a record and its name alone. -/
def Finding.AllowsSparing (l : Finding) (own : Ref) : Prop :=
  ∀ m m' : Realm, (own < m.objects.size → m.Untouched own m') → l.Allows m m'

theorem allowsSparing_own : Finding.own.AllowsSparing own := fun _ _ _ => trivial

theorem allowsSparing_sparing : (Finding.sparing own).AllowsSparing own := fun _ _ => Finding.allows_sparing.mpr

theorem Finding.AllowsSparing.frames (h : l.AllowsSparing own) : l.AllowsFrames := fun _ _ =>
  h _ _ fun _ => .of_objects rfl

theorem HasMethod.transfer {os os' : Array Obj} {r : Ref} {key : Name} {f : Native} (h : HasMethod os r key f)
    (own : (objectAt os' r).own? key = (objectAt os r).own? key)
    (shapes : ∀ g < os.size, (objectAt os' g).shape = (objectAt os g).shape) : HasMethod os' r key f := by
  obtain ⟨g, a, b, d, there, isMaker, shape⟩ := h
  exact ⟨g, a, b, d, own.trans there, isMaker, (shapes g (IsFunction.within ⟨isMaker, shape⟩)).trans shape⟩

/-! ### Naming a record -/

/-- The realm in which a record was opened and put under its name on an object. -/
def Realm.begun (m : Realm) (scope : Ref) : Realm :=
  { m.opened with
    iterations := 0
    objects := m.opened.objects.modify scope (·.define evaluationKey (.plain (.object m.objects.size))) }

/-- The realm in which the evaluation of a script that is undefined has begun. -/
def Realm.answered (m : Realm) (scope : Ref) : Realm :=
  { (m.begun scope).enter m.objects.size (.success .undefined) with iterations := m.iterations }

section Begun

variable {m : Realm} {scope earlier r : Ref} {key : Name}

theorem Realm.getElem?_begun (h : scope ≠ r) : (m.begun scope).objects[r]? = m.opened.objects[r]? := by
  rw [begun, Array.getElem?_modify, if_neg h]

theorem Realm.objectAt_begun (inside : r < m.objects.size) (plain : (objectAt m.objects scope).shape = .plain) :
    (objectAt (m.begun scope).objects r).shape = (objectAt m.objects r).shape ∧
      ∀ key, key ≠ evaluationKey → (objectAt (m.begun scope).objects r).own? key = (objectAt m.objects r).own? key := by
  rw [← objectAt_opened inside]
  by_cases same : r = scope
  · subst same
    rw [← objectAt_opened inside] at plain
    rw [begun, objectAt_modify_self (lt_size_opened inside), Obj.define_of_plain plain]
    exact ⟨shape_setProperty _ _ _, fun key other => own_setProperty_ne other.symm _⟩
  · rw [begun, objectAt_modify_ne same]
    exact ⟨rfl, fun _ _ => rfl⟩

theorem Realm.grows_begun : m.Grows (m.begun scope) := by
  have opens : m.Grows m.opened := (upholds_recordObjects m).toGrows
  have same (o : Obj) : (o.define evaluationKey (.plain (.object m.objects.size))).shape.settles? = o.shape.settles? :=
    settles_define o _ _
  exact opens.trans ((upholds_modify same m.opened scope).toGrows.trans (.of_objects rfl))

theorem Realm.record_begun (inside : scope < m.objects.size) :
    (m.begun scope).objects[m.objects.size]? = some pendingRecord :=
  (getElem?_begun (Nat.ne_of_lt inside)).trans m.record_opened

namespace Realm.Interrupted

variable (L : m.Interrupted scope earlier)

include L

theorem lt_size : earlier < m.objects.size := (Array.getElem?_eq_some_iff.mp L.record).1

theorem evals_begun (plain : (objectAt m.objects scope).shape = .plain) :
    HasMethod (m.begun scope).objects Intrinsic.global.ref "eval" .nothing :=
  L.evals.transfer ((objectAt_begun (lt_size_of_own L.itself) plain).2 _ (by decide)) fun _ inside =>
    (objectAt_begun inside plain).1

theorem earlier_begun (apart : scope ≠ earlier) : (m.begun scope).objects[earlier]? = some pendingRecord := by
  rw [getElem?_begun apart, opened, Array.getElem?_append_left L.lt_size]
  exact L.record

theorem earlier_holds_begun (other : Intrinsic.global.ref ≠ scope) (apart : scope ≠ earlier) :
    (m.begun scope).Holds earlier [] := by
  refine ⟨⟨true, true, true, ?_⟩, L.earlier_begun apart⟩
  rw [begun, objectAt_modify_ne other, objectAt_opened (lt_size_of_own L.itself)]
  exact L.named

end Realm.Interrupted

theorem Realm.Interrupted.holds_begun (L : m.Interrupted Intrinsic.global.ref earlier) :
    (m.begun Intrinsic.global.ref).Holds m.objects.size [] := by
  have inside := lt_size_of_own L.itself
  have plain : (objectAt m.opened.objects Intrinsic.global.ref).shape = .plain := objectAt_opened inside ▸ L.plain
  refine ⟨⟨true, true, true, ?_⟩, record_begun inside⟩
  rw [begun, objectAt_modify_self (lt_size_opened inside), Obj.define_of_plain plain]
  exact (Obj.own_setProperty_plain plain _ _ _).trans (if_pos rfl)

theorem Realm.Leftover.settles_begun (L : m.Leftover scope earlier) :
    (m.begun scope).settles? (settler earlier true) = some (earlier, true) := by
  have inside : settler earlier true < m.objects.size := by
    refine Nat.lt_of_not_le fun outside => ?_
    cases (settles?_eq_none_of_le outside).symm.trans L.settles
  exact (grows_begun.settles _ inside).trans L.settles

end Begun

/-! ### What such an evaluation leaves in the records -/

/-- A realm in which the record of an evaluation has been named, at the end of the evaluation of a script that was
undefined, after the job that was left. -/
def Realm.evaluated (m : Realm) (own earlier : Ref) (iterations : Nat) : Realm :=
  Realm.enter { m.enter own (.success .undefined) with iterations := iterations, jobs := [] } earlier
    (.success (.bool true))

section Evaluated

variable {m : Realm} {earlier : Ref} {iterations : Nat}

theorem Realm.Holds.evaluated (h : m.Holds own []) (apart : own ≠ earlier) :
    (m.evaluated own earlier iterations).Holds own [.success .undefined] := by
  let before : Realm := { m.enter own (.success .undefined) with iterations := iterations, jobs := [] }
  have holds : before.Holds own [.success .undefined] := (h.enter (.success .undefined)).untouched (.of_objects rfl)
  exact holds.untouched (Realm.untouched_enter apart.symm _)

theorem Realm.Holds.evaluated_earlier (h : m.Holds earlier []) (apart : own ≠ earlier) :
    (m.evaluated own earlier iterations).Holds earlier [.success (.bool true)] := by
  let before : Realm := { m.enter own (.success .undefined) with iterations := iterations, jobs := [] }
  have entered : (m.enter own (.success .undefined)).Holds earlier [] := h.untouched (Realm.untouched_enter apart _)
  have holds : before.Holds earlier [] := entered.untouched (.of_objects rfl)
  exact holds.enter _

theorem Realm.record_evaluated (record : m.objects[own]? = some pendingRecord) (apart : own ≠ earlier) :
    (m.evaluated own earlier iterations).objects[own]? = some (recordAfter [.success .undefined]) := by
  rw [evaluated, getElem?_enter, if_neg apart.symm]
  refine (m.getElem?_enter own _).trans ?_
  rw [if_pos rfl, record]
  rfl

end Evaluated

/-! ### Runs -/

section Leftover

variable {n most : Nat} {m : Realm} {s : Session} {scope earlier : Ref}

theorem callGlobal_run {key : Name} {f : Native} {args : List Value} {registers : Nat} {v : Value} {u : World}
    (has : HasMethod w.realm.objects Intrinsic.global.ref key f) (framed : f.registers? = some registers)
    (room : c.Room 1 (2 + args.length + 1))
    (ran : ((kernel n).runNative f (.object Intrinsic.global.ref) args).act l (c.inner (2 + args.length + registers))
      w.framed = .ok v u) (frames : l.AllowsFrames) :
    ((kernel (n + 1)).callGlobal key args).act l c w =
      .ok v { u with realm := { u.realm with iterations := w.realm.iterations } } := by
  obtain ⟨g, a, b, e, own, isMaker, shape⟩ := has
  rw [Kernel.callGlobal, bind_of_ok (global_run own)]
  change ((kernel n).callValue (.object g) .undefined args).act l c w = _
  rw [Kernel.callValue, bind_of_ok (object_run g), shape]
  change ((kernel n).callNative f .undefined args).act l c w = _
  rw [Kernel.callNative, framed]
  refine asCall_run args.length registers room ?_ frames
  exact ran

theorem callEval_run {source : Value} (evals : HasMethod w.realm.objects Intrinsic.global.ref "eval" .nothing)
    (room : c.Room 1 1) : ((kernel (n + 1)).callGlobal "eval" [source]).act l c w = .ok .undefined w := by
  obtain ⟨g, a, b, e, own, hg⟩ := evals
  rw [Kernel.callGlobal, bind_of_ok (global_run own)]
  exact (apply_run hg rfl room).trans rfl

section Begin

variable {source : Value} {m' : Realm} (allowed : l.AllowsSparing w.realm.objects.size) (room : c.Room 1 1)
  (itself : (objectAt w.realm.objects Intrinsic.global.ref).own? globalKey = some (.plain (.object scope)))
  (put : ((kernel (n + 1)).putOf (.object scope) evaluationKey (.object w.realm.objects.size) false).act l c
    { w with realm := w.realm.opened } = .ok () { w with realm := m' })
  (evals : HasMethod m'.objects Intrinsic.global.ref "eval" .nothing)

include allowed room itself put evals

/-- A script that is undefined ends at once, in a realm where a record can be named. -/
theorem completion_run : ((kernel (n + 1)).completion source).act l c w = .ok .undefined { w with realm := m' } :=
  (opened_run (allowed _ _ fun less => absurd less (Nat.lt_irrefl _)) itself put _).trans
    (callEval_run (w := { w with realm := m' }) evals room)

/-- Its evaluation begins. -/
theorem begin_run (record : m'.objects[w.realm.objects.size]? = some pendingRecord) :
    ((kernel (n + 1)).begin source).act l c w =
      .ok () { w with realm := m'.enter w.realm.objects.size (.success .undefined) } := by
  have caught : (catching (Except.ok <$> (kernel (n + 1)).callGlobal "eval" [source])
      fun e => return Except.error e : Run (Except Value Value)).act l c { w with realm := m' } =
        .ok (.ok .undefined) { w with realm := m' } :=
    Act.tryCatch_of_ok ((bind_of_ok (callEval_run (w := { w with realm := m' }) evals room) _).trans rfl)
  refine (opened_run (allowed _ _ fun less => absurd less (Nat.lt_irrefl _)) itself put _).trans ?_
  exact (bind_of_ok caught _).trans (enter_run _ (isRecord_of_pending record))

end Begin

theorem Realm.Interrupted.putItself_run {k : Kernel} (I : m.Interrupted Intrinsic.global.ref earlier)
    (allowed : l.AllowsSparing m.objects.size) (c : Context) :
    (k.putOf (.object Intrinsic.global.ref) evaluationKey (.object m.objects.size) false).act l c
      ⟨{ m.opened with iterations := 0 }, s⟩ = .ok () ⟨m.begun Intrinsic.global.ref, s⟩ := by
  have inside := lt_size_of_own I.itself
  have same := objectAt_opened inside
  have untouched : Realm.Untouched m.objects.size { m.opened with iterations := 0 } (m.begun Intrinsic.global.ref) :=
    ⟨(Realm.record_begun inside).trans m.record_opened.symm, fun _ => I.holds_begun.named⟩
  exact put_own_run (w := ⟨{ m.opened with iterations := 0 }, s⟩) (same ▸ I.plain) (same ▸ I.named)
    (allowed _ _ fun _ => untouched)

theorem putElsewhere_run {k : Kernel} (inside : scope < m.objects.size) (plain : (objectAt m.objects scope).IsPlain)
    (top : (objectAt m.objects scope).parent = none) (absent : (objectAt m.objects scope).own? evaluationKey = none)
    (c : Context) : (k.putOf (.object scope) evaluationKey (.object m.objects.size) false) c
      ⟨{ m.opened with iterations := 0 }, s⟩ = .ok () ⟨m.begun scope, s⟩ := by
  have same := objectAt_opened inside
  exact put_run (l := .own) (w := ⟨{ m.opened with iterations := 0 }, s⟩) (same ▸ plain) (same ▸ absent)
    (lookUp_top (same ▸ absent) (same ▸ top)) trivial

section CallBegin

variable {source : CodeUnits} {m' : Realm} (I : m.Interrupted scope earlier) (allowed : l.AllowsSparing m.objects.size)
  (room : Context.Room { c with frames := 1, stack := 2 } 2 20)
  (put : ∀ c, ((kernel (n + 1)).putOf (.object scope) evaluationKey (.object m.objects.size) false).act l c
    ⟨{ m.opened with iterations := 0 }, s⟩ = .ok () ⟨m', s⟩)
  (evals : HasMethod m'.objects Intrinsic.global.ref "eval" .nothing)

include I allowed room put evals

theorem callCompletion_run : ((kernel (n + 1)).completion (.text source)).act l
    (Context.inner { c with frames := 1, stack := 2 } 7) (World.mk m s).framed = .ok .undefined ⟨m', s⟩ :=
  completion_run (w := (World.mk m s).framed) allowed (room.inner (by decide) (by decide)) I.itself (put _) evals

/-- A window begins the evaluation of a script that is undefined. -/
theorem callBegin_run (record : m'.objects[m.objects.size]? = some pendingRecord) :
    (byWindow ((kernel (n + 2)).callGlobal "__hl_begin" [.text source])).act l c ⟨m, s⟩ =
      .ok .undefined ⟨{ m'.enter m.objects.size (.success .undefined) with iterations := m.iterations }, s⟩ := by
  refine callGlobal_run (f := .environment .begin) (u := ⟨m'.enter m.objects.size (.success .undefined), s⟩)
    (c := { c with frames := 1, stack := 2 }) I.begins rfl (room.mono (by decide) (show 4 ≤ 20 by decide)) ?_
    allowed.frames
  have ran : ((kernel (n + 1)).begin (.text source)).act l (Context.inner { c with frames := 1, stack := 2 } 7)
      (World.mk m s).framed = .ok () ⟨m'.enter m.objects.size (.success .undefined), s⟩ :=
    begin_run (w := (World.mk m s).framed) allowed (room.inner (by decide) (by decide)) I.itself (put _) evals record
  exact (bind_of_ok ran _).trans rfl

end CallBegin

theorem apply_settler_run {f r : Ref} {v : Value} (settles : w.realm.settles? f = some (r, true))
    (record : (objectAt w.realm.objects r).isRecord = true) (room : c.Room 1 4) (frames : l.AllowsFrames) :
    ((kernel (n + 1)).apply (.object f) .undefined [v]).act l c w =
      .ok .undefined { w with realm := w.realm.enter r (.success v) } := by
  obtain ⟨isMaker, shape⟩ := shape_of_settles settles
  change ((kernel n).callValue (.object f) .undefined [v]).act l c w = _
  rw [Kernel.callValue, bind_of_ok (object_run f), shape]
  have settled : ((kernel n).settle r true v).act l (c.inner 4) w.framed =
      .ok () { w.framed with realm := w.framed.realm.enter r (.success v) } := enter_run _ record
  have ran : (do (kernel n).runNative (.environment (.settle r true)) (← looseThis .undefined) [v] : Run Value).act l
      (c.inner 4) w.framed = .ok .undefined { w.framed with realm := w.framed.realm.enter r (.success v) } :=
    (bind_of_ok settled _).trans rfl
  exact asCall_run 1 1 room ran frames

/-- The job that was left tells a record that its evaluation has succeeded. -/
theorem runJobs_run {f r : Ref} {v : Value} (settles : w.realm.settles? f = some (r, true))
    (record : (objectAt w.realm.objects r).isRecord = true)
    (jobs : w.realm.jobs = [.react (some (.object f)) true none v]) (laterJobs : w.realm.laterJobs = [])
    (room : Context.Room { c with frames := 0, stack := 0 } 1 4) (allowed : l.AllowsSparing own) :
    (kernel (n + 1)).driving.runJobs.act l c w =
      .ok () { w with realm := Realm.enter { w.realm with jobs := [] } r (.success v) } := by
  let c' : Context := { c with frames := 0, stack := 0 }
  let w' : World := { w with realm := { w.realm with jobs := [] } }
  have next : nextJob?.act l c' w = .ok (some (.react (some (.object f)) true none v)) w' := by
    rw [nextJob?, bind_of_ok realm_run, jobs]
    exact (bind_of_ok (modifyRealm_run _ _ (allowed _ _ fun _ => .of_objects rfl)) _).trans rfl
  have called := apply_settler_run (n := n) (l := l) (c := c') (w := w') (v := v) settles record room allowed.frames
  have job : ((kernel (n + 1)).runJob (.react (some (.object f)) true none v)).act l c' w' =
      .ok () { w' with realm := w'.realm.enter r (.success v) } := by
    have guarded : (Script.guarded (Except.ok <$> (kernel (n + 1)).apply (.object f) .undefined [v])
        fun e => return Except.error e : Run (Except Value Value)).act l c' w' =
          .ok (.ok .undefined) { w' with realm := w'.realm.enter r (.success v) } :=
      Act.tryCatch_of_ok ((bind_of_ok called _).trans rfl)
    exact (bind_of_ok guarded _).trans rfl
  change ((kernel (n + 1)).runJobs (9999998 + 1 + 1)).act l c' w = _
  rw [Kernel.runJobs]
  refine (bind_of_ok next _).trans ((bind_of_ok job _).trans ?_)
  exact runJobs_none rfl laterJobs

theorem drive_run {d : Driving Run} {most runs : Nat} {u u' : World} (jobs : d.runJobs.act l c w = .ok () u)
    (settled : d.isSettled.act l c u = .ok true u') : (d.drive most runs).act l c w = .ok (.ok runs) u' := by
  cases most <;> rw [Driving.drive, bind_of_ok jobs, bind_of_ok settled] <;> rfl

theorem outcome_run {k : Kernel} {es : List Entry} {a : ScriptValue} (holds : w.realm.Holds own es)
    (ok : (Record.after es).ok = true) (answer : (k.answer (Record.after es).value).act l c w = .ok a w) :
    k.outcome.act l c w = .ok (.ok a) w := by
  have shows_ := Obj.shows_recordAfter es
  rw [Kernel.outcome, bind_of_ok (recorded_run holds shows_.ok), ok]
  exact (bind_of_ok (recorded_run holds shows_.value) _).trans ((bind_of_ok answer _).trans rfl)

theorem evaluate_run {k : Evaluator} {source : CodeUnits} {v : Value} {u u' u'' : World} {r : Except Error ScriptValue}
    (begins : (byWindow (k.callGlobal "__hl_begin" [.text source])).act l c w = .ok v u)
    (driven : (k.driving.drive k.maxTimerRuns 0).act l c u = .ok (.ok 0) u')
    (outcome : k.outcome.act l c u' = .ok r u'') : (k.evaluate source).act l c w = .ok r u'' := by
  have begins : (discard (byWindow (k.callGlobal "__hl_begin" [.text source])) : Run PUnit).act l c w = .ok ⟨⟩ u :=
    (bind_of_ok begins _).trans rfl
  rw [Evaluator.evaluate, bind_of_ok begins, bind_of_ok driven]
  exact outcome

/-- The job that was left tells the earlier record so, after a script that was undefined. -/
theorem runJobs_evaluated {m' : Realm} {iterations : Nat} (apart : own ≠ earlier)
    (settles : m'.settles? (settler earlier true) = some (earlier, true))
    (record : m'.objects[earlier]? = some pendingRecord)
    (jobs : m'.jobs = [.react (some (.object (settler earlier true))) true none (.bool true)])
    (laterJobs : m'.laterJobs = []) (room : Context.Room { c with frames := 0, stack := 0 } 1 4)
    (allowed : l.AllowsSparing own) :
    (kernel (n + 1)).driving.runJobs.act l c ⟨{ m'.enter own (.success .undefined) with iterations := iterations }, s⟩ =
      .ok () ⟨m'.evaluated own earlier iterations, s⟩ := by
  let entered : World := ⟨{ m'.enter own (.success .undefined) with iterations := iterations }, s⟩
  have still : entered.realm.settles? (settler earlier true) = some (earlier, true) :=
    (m'.settles_enter _ _ _).trans settles
  have pending : entered.realm.objects[earlier]? = some pendingRecord :=
    (m'.getElem?_enter _ _).trans ((if_neg apart).trans record)
  exact runJobs_run (w := entered) still (isRecord_of_pending pending) jobs laterJobs room allowed

/-- An evaluation of a script that is undefined, in a realm with such a job: it answers what is under the name of the
record by then. -/
theorem evaluate_leftover_run {source : CodeUnits} {named : Ref} {v : Value} {a : ScriptValue}
    (L : m.Leftover scope earlier) (allowed : l.AllowsSparing m.objects.size) (inside : scope < m.objects.size)
    (apart : scope ≠ earlier) (plain : (objectAt m.objects scope).shape = .plain)
    (roomBegin : Context.Room { c with frames := 1, stack := 2 } 2 20)
    (roomJobs : Context.Room { c with frames := 0, stack := 0 } 1 4)
    (put : ∀ c, ((kernel (n + 1)).putOf (.object scope) evaluationKey (.object m.objects.size) false).act l c
      ⟨{ m.opened with iterations := 0 }, s⟩ = .ok () ⟨m.begun scope, s⟩)
    (holds : ((m.begun scope).evaluated m.objects.size earlier m.iterations).Holds named [.success v])
    (answer : ∀ w, ((kernel (n + 2)).answer v).act l c w = .ok a w) :
    ((Evaluator.mk (kernel (n + 2)) most).evaluate source).act l c ⟨m, s⟩ =
      .ok (.ok a) ⟨(m.begun scope).evaluated m.objects.size earlier m.iterations, s⟩ := by
  let ended : World := ⟨(m.begun scope).evaluated m.objects.size earlier m.iterations, s⟩
  have record := Realm.record_begun inside
  have ran : (kernel (n + 2)).driving.runJobs.act l c _ = .ok () ended :=
    runJobs_evaluated (Nat.ne_of_lt L.lt_size).symm L.settles_begun (L.earlier_begun apart) L.jobs L.laterJobs roomJobs
      allowed
  have settled : (kernel (n + 2)).driving.isSettled.act l c ended = .ok true ended := isSettled_run (w := ended) holds
  have outcome : (kernel (n + 2)).outcome.act l c ended = .ok (.ok a) ended :=
    outcome_run (w := ended) holds (by rfl) (answer _)
  exact evaluate_run (callBegin_run L.toInterrupted allowed roomBegin put (L.evals_begun plain) record)
    (drive_run ran settled) outcome

/-- Where the name of the outermost scope stands for itself, an evaluation of a script that is undefined answers what
its own record says. -/
theorem evaluate_leftover_own {source : CodeUnits} (L : m.Leftover Intrinsic.global.ref earlier)
    (allowed : l.AllowsSparing m.objects.size) (apart : Intrinsic.global.ref ≠ earlier)
    (roomBegin : Context.Room { c with frames := 1, stack := 2 } 2 20)
    (roomJobs : Context.Room { c with frames := 0, stack := 0 } 1 4) :
    ((Evaluator.mk (kernel (n + 2)) most).evaluate source).act l c ⟨m, s⟩ = .ok (.ok .undefined)
      ⟨(m.begun Intrinsic.global.ref).evaluated m.objects.size earlier m.iterations, s⟩ := by
  have inside := lt_size_of_own L.itself
  have holds := L.holds_begun
  exact evaluate_leftover_run L allowed inside apart L.plain roomBegin roomJobs (L.putItself_run allowed)
    (holds.evaluated (Nat.ne_of_lt L.lt_size).symm) fun _ => rfl

/-- Where it stands for another object, such an evaluation answers what the earlier record says. -/
theorem evaluate_leftover_earlier {source : CodeUnits} (L : m.Leftover scope earlier) (inside : scope < m.objects.size)
    (apart : scope ≠ earlier) (other : Intrinsic.global.ref ≠ scope) (plain : (objectAt m.objects scope).IsPlain)
    (top : (objectAt m.objects scope).parent = none) (absent : (objectAt m.objects scope).own? evaluationKey = none)
    (roomBegin : Context.Room { c with frames := 1, stack := 2 } 2 20)
    (roomJobs : Context.Room { c with frames := 0, stack := 0 } 1 4) :
    ((Evaluator.mk (kernel (n + 2)) most).evaluate source) c ⟨m, s⟩ = .ok (.ok (.bool true))
      ⟨(m.begun scope).evaluated m.objects.size earlier m.iterations, s⟩ := by
  have holds := L.earlier_holds_begun other apart
  exact evaluate_leftover_run L allowsSparing_own inside apart plain.shape roomBegin roomJobs
    (putElsewhere_run inside plain top absent)
    (holds.evaluated_earlier (Nat.ne_of_lt L.lt_size).symm) fun _ => rfl

end Leftover

/-! ### Realms of this kind -/

/-- An object with what is needed of the outermost scope: what begins evaluations and what runs a script, and under the
names of the outermost scope and of the record these objects. -/
def Obj.scopeWith (o : Obj) (begins scope record : Ref) : Obj :=
  (((o.setProperty "__hl_begin" (.plain (.object begins))).setProperty "eval"
    (.plain (.object Intrinsic.functions.ref))).setProperty globalKey (.plain (.object scope))).setProperty evaluationKey
    (.plain (.object record))

section ScopeWith

variable {o : Obj} (h : o.shape = .plain) (begins scope record : Ref)

include h

theorem Obj.shape_scopeWith : (o.scopeWith begins scope record).shape = .plain := by
  simp only [scopeWith, shape_setProperty, h]

theorem Obj.own_scopeWith :
    (o.scopeWith begins scope record).own? "__hl_begin" = some (.plain (.object begins)) ∧
      (o.scopeWith begins scope record).own? "eval" = some (.plain (.object Intrinsic.functions.ref)) ∧
      (o.scopeWith begins scope record).own? globalKey = some (.plain (.object scope)) ∧
      (o.scopeWith begins scope record).own? evaluationKey = some (.plain (.object record)) := by
  simp +decide [scopeWith, own_setProperty_plain, shape_setProperty, h]

end ScopeWith

/-- A realm with the function that begins evaluations, before the first of them. -/
def Realm.unbegun : Realm :=
  { (default : Realm) with
    timers := .start 0.0
    objects := intrinsicObjects.push (nativeObject (.environment .begin) "" 1 true) }

/-- The realm after an evaluation that was broken off: its record is there, and a job that settles it. -/
def Realm.leftover (scope : Ref) : Realm :=
  { unbegun.opened with
    objects := unbegun.opened.objects.modify Intrinsic.global.ref
      (·.scopeWith intrinsicObjects.size scope unbegun.objects.size)
    jobs := [.react (some (.object (settler unbegun.objects.size true))) true none (.bool true)] }

section LeftoverRealm

variable {scope r : Ref}

theorem Realm.objectAt_leftover (inside : r < unbegun.objects.size) (other : r ≠ Intrinsic.global.ref) :
    objectAt (leftover scope).objects r = objectAt unbegun.objects r :=
  (objectAt_modify_ne other).trans (objectAt_opened inside)

theorem Realm.grows_leftover : unbegun.opened.Grows (leftover scope) := by
  have same (o : Obj) (begins record : Ref) : (o.scopeWith begins scope record).shape.settles? = o.shape.settles? := by
    simp only [Obj.scopeWith, shape_setProperty]
  exact (upholds_modify (same · _ _) unbegun.opened Intrinsic.global.ref).toGrows.trans (.of_objects rfl)

theorem Realm.tidy_leftover : (leftover scope).Tidy := by
  have unsettling : Unsettling unbegun.objects := by
    intro o ho
    rcases Array.mem_push.mp ho with old | rfl
    · exact unsettling_intrinsicObjects o old
    · rw [nativeObject, shape_functionObject]
      rfl
  exact unsettling.tidy.grows ((upholds_recordObjects unbegun).toGrows.trans grows_leftover)

theorem Realm.evaluator_leftover : IsFunction (leftover scope).objects Intrinsic.functions.ref .nothing := by
  refine ⟨false, ?_⟩
  rw [objectAt_leftover (by decide) (by decide),
    show objectAt unbegun.objects _ = _ from objectAt_push_of_lt (by decide)]
  change (nativeObject .nothing "" 0 false).shape = _
  rw [nativeObject, shape_functionObject]

theorem Realm.leftover_leftover (scope : Ref) : (leftover scope).Leftover scope unbegun.objects.size := by
  have inside : Intrinsic.global.ref < unbegun.objects.size := by decide
  have plain : (objectAt unbegun.opened.objects Intrinsic.global.ref).shape = .plain := by
    rw [objectAt_opened inside]
    rfl
  have scopeAt : objectAt (leftover scope).objects Intrinsic.global.ref =
      (objectAt unbegun.opened.objects Intrinsic.global.ref).scopeWith intrinsicObjects.size scope
        unbegun.objects.size := objectAt_modify_self (lt_size_opened inside)
  have own := Obj.own_scopeWith plain intrinsicObjects.size scope unbegun.objects.size
  rw [← scopeAt] at own
  obtain ⟨begins, evals, itself, named⟩ := own
  have beginner : IsFunction (leftover scope).objects intrinsicObjects.size (.environment .begin) := by
    refine ⟨true, ?_⟩
    rw [objectAt_leftover (by decide) (by decide), show objectAt unbegun.objects _ = _ from objectAt_push_size,
      nativeObject, shape_functionObject]
  refine ⟨⟨⟨_, _, _, _, begins, beginner⟩, ⟨_, _, _, _, evals, evaluator_leftover⟩, ?_, itself, named, ?_⟩, ?_, rfl, rfl⟩
  · rw [scopeAt, Obj.shape_scopeWith plain]
  · rw [leftover, Array.getElem?_modify, if_neg (by decide)]
    exact unbegun.record_opened
  · refine (grows_leftover.settles _ ?_).trans (unbegun.settles_settler true)
    rw [opened, Array.size_append]
    exact Nat.add_lt_add_left (by decide) _

end LeftoverRealm

end Pagewalk.Script
