import Pagewalk.Proofs.Script.Leftover

/-!
# A realm with a timer that an evaluation has left

An evaluation that was broken off may leave a timer, too. Where an evaluation reads the record of that one, which is
pending, a timer runs for a script that has come to its end already (`Realm.Waiting.exists_turn`).
-/

namespace Pagewalk.Script

open Text

variable {c : Context} {w : World} {n : Nat} {m : Realm} {scope earlier r : Ref}

/-! ### Running a timer -/

/-- A timer runs whose callback is called in a way that does nothing. -/
theorem runTimer_run {f g : Ref} {args : Value} {later : Timers Float Task}
    (fires : w.realm.timers.fire? = some (⟨.object f, args⟩, later)) (one : w.realm.timers.pending.length ≤ 1)
    (applies : (objectAt w.realm.objects f).own? "apply" = some (.plain (.object g)))
    (nothing : IsFunction w.realm.objects g .nothing)
    (itself : (objectAt w.realm.objects Intrinsic.global.ref).own? globalKey = some (.plain (.object scope)))
    (room : c.Room 1 1) : (kernel (n + 1)).runTimer c w =
      .ok (.bool true) { w with realm := { w.realm with timers := w.realm.timers.after .fire } } := by
  let w' : World := { w with realm := { w.realm with timers := w.realm.timers.after .fire } }
  have read : (kernel (n + 1)).propertyOf (.object f) "apply" c w' = .ok (.object g) w' := propertyOf_own applies
  have named : (kernel (n + 1)).global globalKey c w' = .ok (.object scope) w' := global_run itself
  have applied : (kernel (n + 1)).apply (.object g) (.object f) [.object scope, args] c w' = .ok .undefined w' :=
    (apply_run (w := w') nothing rfl room).trans rfl
  have called : (do
      let apply ← (kernel (n + 1)).propertyOf (.object f) "apply"
      discard <| (kernel (n + 1)).apply apply (.object f) [← (kernel (n + 1)).global globalKey, args] : Run Unit) c w' =
        .ok () w' := (bind_of_ok read _).trans ((bind_of_ok named _).trans ((bind_of_ok applied _).trans rfl))
  rw [Kernel.runTimer, bind_of_ok realm_run]
  dsimp only
  rw [Nat.sub_eq_zero_of_le one]
  refine (bind_of_ok (show countIterations 0 c w = .ok () w from rfl) _).trans ?_
  rw [fires]
  refine (bind_of_ok (show onTimers .fire c w = .ok () w' from rfl) _).trans ?_
  exact (bind_of_ok (Act.tryCatch_of_ok called) _).trans rfl

/-! ### A turn -/

/-- A pending record stands under the name by which it is read, and nothing is left to do but a timer, whose callback is
called in a way that does nothing. -/
structure Realm.Waiting (m : Realm) (record : Ref) : Prop where
  holds : m.Holds record []
  itself : ∃ scope, (objectAt m.objects Intrinsic.global.ref).own? globalKey = some (.plain (.object scope))
  runner : HasMethod m.objects Intrinsic.global.ref "__hl_run_next_timer" (.environment .runTimer)
  applies : (objectAt m.objects Intrinsic.functions.ref).own? "apply" = some (.plain (.object Intrinsic.functions.ref))
  nothing : IsFunction m.objects Intrinsic.functions.ref .nothing
  fires : ∃ args later, m.timers.fire? = some (⟨.object Intrinsic.functions.ref, args⟩, later)
  one : m.timers.pending.length ≤ 1
  jobs : m.jobs = []
  laterJobs : m.laterJobs = []

/-- The timer runs, and the record is pending as before. -/
theorem Realm.Waiting.exists_turn (W : w.realm.Waiting r) (room : Context.Room { c with frames := 1, stack := 2 } 2 20) :
    let d := (kernel (n + 2)).driving
    ∃ w', d.Turns c [w] w w' ∧ d.Pends c [w] w w' := by
  intro d
  obtain ⟨scope, itself⟩ := W.itself
  obtain ⟨args, later, fires⟩ := W.fires
  let w' : World := { w with realm := { w.realm with timers := w.realm.timers.after .fire } }
  let u : World := { w.framed with realm := { w.framed.realm with timers := w.framed.realm.timers.after .fire } }
  have ran : (kernel (n + 1)).runTimer (Context.inner { c with frames := 1, stack := 2 } 7) w.framed = .ok (.bool true) u :=
    runTimer_run (w := w.framed) fires W.one W.applies W.nothing itself (room.inner (by decide) (by decide))
  have called : byWindow ((kernel (n + 2)).callGlobal "__hl_run_next_timer" []) c w = .ok (.bool true) w' := by
    refine callGlobal_run (c := { c with frames := 1, stack := 2 }) (u := u) (f := .environment .runTimer) W.runner rfl
      (room.mono (by decide) (show 3 ≤ 20 by decide)) ?_ fun _ _ => trivial
    exact ran
  have timer : d.runTimer c w = .ok true w' := (bind_of_ok called _).trans rfl
  have jobs (u : World) (none : u.realm.jobs = []) (noneLater : u.realm.laterJobs = []) : d.runJobs c u = .ok () u :=
    driving_runJobs none noneLater
  have asked (u : World) (holds : u.realm.Holds r []) : d.isSettled c u = .ok false u := isSettled_run holds
  have holds' : w'.realm.Holds r [] := W.holds.untouched (.of_objects rfl)
  refine ⟨w', .turn (jobs w W.jobs W.laterJobs) (asked w W.holds) timer .none, ?_⟩
  exact .turn (jobs w W.jobs W.laterJobs) (asked w W.holds) timer (.asked (jobs w' W.jobs W.laterJobs) (asked w' holds'))

/-! ### An evaluation that has begun -/

section Answered

variable (m : Realm) (scope : Ref)

theorem Realm.timers_answered : (m.answered scope).timers = m.timers := by
  simp only [answered, enter, begun, opened]

theorem Realm.jobs_answered : (m.answered scope).jobs = m.jobs := by
  simp only [answered, enter, begun, opened]

theorem Realm.laterJobs_answered : (m.answered scope).laterJobs = m.laterJobs := by
  simp only [answered, enter, begun, opened]

theorem Realm.objects_answered : (m.answered scope).objects =
    ((m.begun scope).enter m.objects.size (.success .undefined)).objects := by
  simp only [answered]

theorem Realm.record_answered (inside : scope < m.objects.size) :
    (m.answered scope).objects[m.objects.size]? = some (recordAfter [.success .undefined]) := by
  rw [objects_answered, getElem?_enter, if_pos rfl, record_begun inside]
  rfl

end Answered

/-- Where another object stands under the name of the outermost scope, the earlier record is still read. -/
theorem Realm.Waiting.answered (I : m.Interrupted scope earlier) (W : m.Waiting earlier)
    (plain : (objectAt m.objects scope).shape = .plain) (apart : scope ≠ earlier) (other : Intrinsic.global.ref ≠ scope) :
    (m.answered scope).Waiting earlier := by
  have kept (r : Ref) (inside : r < m.objects.size) :
      (objectAt (m.answered scope).objects r).shape = (objectAt m.objects r).shape ∧
      ∀ key, key ≠ evaluationKey → (objectAt (m.answered scope).objects r).own? key = (objectAt m.objects r).own? key := by
    rw [m.objects_answered, Realm.enter, objectAt_modify_ne (Nat.ne_of_lt inside)]
    exact Realm.objectAt_begun inside plain
  have globals := kept _ (lt_size_of_own I.itself)
  have functions := kept _ W.nothing.within
  obtain ⟨isMaker, shape⟩ := W.nothing
  have untouched : (m.begun scope).Untouched earlier (m.answered scope) :=
    (Realm.untouched_enter (Nat.ne_of_lt I.lt_size).symm (.success .undefined)).trans (.of_objects (m.objects_answered scope))
  constructor
  · exact (I.earlier_holds_begun other apart).untouched untouched
  · exact ⟨scope, (globals.2 _ (by decide)).trans I.itself⟩
  · exact W.runner.transfer (globals.2 _ (by decide)) fun g inside => (kept g inside).1
  · exact (functions.2 _ (by decide)).trans W.applies
  · exact ⟨isMaker, functions.1.trans shape⟩
  · rw [m.timers_answered scope]
    exact W.fires
  · rw [m.timers_answered scope]
    exact W.one
  · exact (m.jobs_answered scope).trans W.jobs
  · exact (m.laterJobs_answered scope).trans W.laterJobs

/-! ### The realm -/

/-- The objects when a property was put on one of them. -/
def withProperty (os : Array Obj) (r : Ref) (key : Name) (v : Value) : Array Obj :=
  os.modify r (·.setProperty key (.plain v))

section WithProperty

variable (os : Array Obj) (r s : Ref) (key : Name) (v : Value)

theorem size_withProperty : (withProperty os r key v).size = os.size := Array.size_modify

theorem objectAt_withProperty : objectAt (withProperty os r key v) s = objectAt os s ∨
    objectAt (withProperty os r key v) s = (objectAt os s).setProperty key (.plain v) := by
  rw [withProperty]
  by_cases same : s = r
  · subst same
    rcases Nat.lt_or_ge s os.size with inside | outside
    · exact .inr (objectAt_modify_self inside)
    · rw [objectAt, objectAt, Array.getElem?_modify, if_pos rfl, Array.getElem?_eq_none outside]
      exact .inl rfl
  · exact .inl (objectAt_modify_ne same)

theorem shape_withProperty : (objectAt (withProperty os r key v) s).shape = (objectAt os s).shape := by
  rcases objectAt_withProperty os r s key v with same | same <;> rw [same]
  exact shape_setProperty _ _ _

variable {os r s key}

theorem own_withProperty (inside : r < os.size) (plain : (objectAt os r).inherent? key = none) :
    (objectAt (withProperty os r key v) r).own? key = some (.plain v) := by
  rw [withProperty, objectAt_modify_self inside, own_setProperty plain, if_pos rfl]

theorem own_withProperty_ne {key' : Name} (other : key ≠ key') :
    (objectAt (withProperty os r key v) s).own? key' = (objectAt os s).own? key' := by
  rcases objectAt_withProperty os r s key v with same | same <;> rw [same]
  exact own_setProperty_ne other _

theorem getElem?_withProperty (other : r ≠ s) : (withProperty os r key v)[s]? = os[s]? := by
  rw [withProperty, Array.getElem?_modify, if_neg other]

end WithProperty

/-- The objects of a realm that an evaluation has left, and with them the function that runs a timer. -/
def Realm.withRunner (scope : Ref) : Array Obj :=
  (leftover scope).objects.push (nativeObject (.environment .runTimer) "" 0 true)

/-- The realm that an evaluation has left, with a timer in the place of the job: scripts have set a function that does
nothing, and have put it in the place of what calls functions, too. -/
def Realm.lingering (scope : Ref) : Realm :=
  { leftover scope with
    objects := withProperty (withProperty (withRunner scope) Intrinsic.global.ref "__hl_run_next_timer"
      (.object (leftover scope).objects.size)) Intrinsic.functions.ref "apply" (.object Intrinsic.functions.ref)
    jobs := []
    timers := ⟨0.0, 2, 1, [⟨1, 0.0, 0, ⟨.object Intrinsic.functions.ref, .undefined⟩, none⟩]⟩ }

section LingeringRealm

theorem Realm.objectAt_withRunner (inside : r < (leftover scope).objects.size) :
    objectAt (withRunner scope) r = objectAt (leftover scope).objects r := objectAt_push_of_lt inside

theorem Realm.lt_size_withRunner (inside : r < (leftover scope).objects.size) : r < (withRunner scope).size := by
  rw [withRunner, Array.size_push]
  exact Nat.lt_succ_of_lt inside

/-- What stood in the realm before is there, but for what was put there. -/
theorem Realm.objectAt_lingering (inside : r < (leftover scope).objects.size) :
    (objectAt (lingering scope).objects r).shape = (objectAt (leftover scope).objects r).shape ∧
      ∀ key, CodeUnits.ofString "__hl_run_next_timer" ≠ key → CodeUnits.ofString "apply" ≠ key →
        (objectAt (lingering scope).objects r).own? key = (objectAt (leftover scope).objects r).own? key := by
  rw [lingering, ← objectAt_withRunner inside]
  dsimp only
  constructor
  · exact (shape_withProperty ..).trans (shape_withProperty ..)
  · intro key other other'
    exact (own_withProperty_ne _ other').trans (own_withProperty_ne _ other)

theorem Realm.objectAt_lingering_ne (inside : r < (leftover scope).objects.size) (other : r ≠ Intrinsic.global.ref)
    (other' : r ≠ Intrinsic.functions.ref) : objectAt (lingering scope).objects r = objectAt (leftover scope).objects r :=
  (objectAt_modify_ne other').trans ((objectAt_modify_ne other).trans (objectAt_withRunner inside))

theorem Realm.interrupted_lingering (scope : Ref) : (lingering scope).Interrupted scope unbegun.objects.size := by
  have L := leftover_leftover scope
  have shapes (g : Ref) (inside : g < (leftover scope).objects.size) :
      (objectAt (lingering scope).objects g).shape = (objectAt (leftover scope).objects g).shape :=
    (objectAt_lingering inside).1
  obtain ⟨plain, own⟩ := objectAt_lingering (lt_size_of_own L.itself)
  have record : (lingering scope).objects[unbegun.objects.size]? = (leftover scope).objects[unbegun.objects.size]? := by
    rw [lingering, getElem?_withProperty _ (by decide), getElem?_withProperty _ (by decide), withRunner,
      Array.getElem?_push, if_neg (Nat.ne_of_lt L.lt_size)]
  exact ⟨L.begins.transfer (own _ (by decide) (by decide)) shapes, L.evals.transfer (own _ (by decide) (by decide)) shapes,
    plain.trans L.plain, (own _ (by decide) (by decide)).trans L.itself, (own _ (by decide) (by decide)).trans L.named,
    record.trans L.record⟩

theorem Realm.runner_lingering (scope : Ref) :
    HasMethod (lingering scope).objects Intrinsic.global.ref "__hl_run_next_timer" (.environment .runTimer) := by
  have L := leftover_leftover scope
  have inside := lt_size_of_own L.itself
  have own : (objectAt (lingering scope).objects Intrinsic.global.ref).own? "__hl_run_next_timer" =
      some (.plain (.object (leftover scope).objects.size)) := by
    refine (own_withProperty_ne _ (by decide)).trans (own_withProperty _ (lt_size_withRunner inside) ?_)
    rw [Obj.inherent?, objectAt_withRunner inside, L.plain]
  have shape : (objectAt (withRunner scope) (leftover scope).objects.size).shape = .native (.environment .runTimer) true := by
    rw [withRunner, objectAt_push_size, nativeObject, shape_functionObject]
  exact ⟨_, _, _, _, own, true, (shape_withProperty ..).trans ((shape_withProperty ..).trans shape)⟩

theorem Realm.waiting_lingering (scope : Ref) : (lingering scope).Waiting unbegun.objects.size := by
  have I := interrupted_lingering scope
  obtain ⟨isMaker, shape⟩ : IsFunction (leftover scope).objects Intrinsic.functions.ref .nothing := evaluator_leftover
  have inside := IsFunction.within ⟨isMaker, shape⟩
  constructor
  · exact ⟨⟨_, _, _, I.named⟩, I.record⟩
  · exact ⟨scope, I.itself⟩
  · exact runner_lingering scope
  · refine own_withProperty _ ?_ ?_
    · rw [size_withProperty]
      exact lt_size_withRunner inside
    · rw [Obj.inherent?, shape_withProperty, objectAt_withRunner inside, shape]
  · exact ⟨isMaker, (objectAt_lingering inside).1.trans shape⟩
  · exact ⟨_, _, rfl⟩
  · exact Nat.le_refl 1
  · rfl
  · rfl

end LingeringRealm

end Pagewalk.Script
