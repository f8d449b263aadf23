import Pagewalk.Proofs.Script.Driving
import Pagewalk.Proofs.Sessions

/-!
# Evaluations that stay pending

An evaluation is driven in turns: jobs run, it is asked whether it has ended, and a timer runs. One that is still
pending when it is asked the last time ends in one of two ways (`evaluate_eq_error_iff`). Which one it is depends on
the number of timers that ran; the timers that are set count only if fewer ran than may run (`evaluate_pending`). So
an evaluation that has nothing left to run ends as if another timer could have settled it, when exactly as many timers
ran as may run.
-/

namespace Pagewalk

open Script Text

/-- What an evaluation ends with that was pending to the end. -/
def Error.IsPending (e : Error) : Prop := e = .scriptUnsettled ∨ ∃ n, e = .timerBudgetExhausted n

namespace Script

variable {α β : Type} {c : Context} {w w' : World}

/-! ### The runner of timers -/

/-- The function that runs the next timer is where it was put. -/
def HasRunner (w : World) : Prop :=
  HasMethod w.realm.objects Intrinsic.global.ref "__hl_run_next_timer" (.environment .runTimer)

/-- Running the next timer answers whether there was one, and if so it has fired. -/
theorem runTimer_answer {k : Kernel} {v : Value} (h : k.runTimer c w = .ok v w') :
    v = .bool false ∧ w.realm.timers.pending = [] ∨
      v = .bool true ∧ w.realm.timers.pending ≠ [] ∧
        ∃ ds, w'.realm.timers = (w.realm.timers.after .fire).afterAll ds := by
  rw [Kernel.runTimer, bind_of_ok realm_run] at h
  dsimp only at h
  obtain ⟨⟨⟩, v₁, counted, h⟩ := exists_of_bind h
  have same := timers_of_countIterations counted
  cases fires : w.realm.timers.fire? with
  | none =>
    rw [fires] at h
    cases h
    exact .inl ⟨rfl, Timers.fire_eq_none_iff.mp fires⟩
  | some fired =>
    rw [fires] at h
    rw [bind_of_ok (show onTimers .fire c v₁ = .ok () _ from rfl)] at h
    obtain ⟨⟨⟩, v₂, task, h⟩ := exists_of_bind h
    obtain ⟨ds, later⟩ := Run.exists_deeds_of_ok task
    cases h
    refine .inr ⟨rfl, fun none => ?_, ds, later.trans ?_⟩
    · cases fires.symm.trans (Timers.fire_eq_none_iff.mpr none)
    · rw [← same]

/-- The runner of timers, where it was put, answers whether there was a timer, and if so it has fired. -/
theorem driving_runTimer_answer {n : Nat} {b : Bool} (runner : HasRunner w)
    (h : (kernel (n + 1)).driving.runTimer c w = .ok b w') :
    b = false ∧ w.realm.timers.pending = [] ∨
      b = true ∧ w.realm.timers.pending ≠ [] ∧
        ∃ ds, w'.realm.timers = (w.realm.timers.after .fire).afterAll ds := by
  obtain ⟨v, w₁, called, h⟩ := exists_of_bind h
  cases h
  obtain ⟨this, u, ran, rfl⟩ := exists_of_callGlobal (c := { c with frames := 1, stack := 2 }) runner rfl called
  rcases runTimer_answer ran with ⟨rfl, none⟩ | ⟨rfl, some, ds, later⟩
  · exact .inl ⟨rfl, none⟩
  · exact .inr ⟨rfl, some, ds, later⟩

/-! ### Turns -/

/-- From one world to another an evaluation stays pending: it is asked after its jobs, and again after each timer and
the jobs that come then. The worlds in which a timer runs are listed; in the last world it was asked the last time. -/
inductive Driving.Pends (d : Driving Run) (c : Context) : (ran : List World) → (begun asked : World) → Prop
  | asked {w v w'} (jobs : d.runJobs c w = .ok () v) (pending : d.isSettled c v = .ok false w') : Pends d c [] w w'
  | turn {ran w v u w₁ w'} (jobs : d.runJobs c w = .ok () v) (pending : d.isSettled c v = .ok false u)
    (timer : d.runTimer c u = .ok true w₁) (rest : Pends d c ran w₁ w') : Pends d c (u :: ran) w w'

theorem Driving.pends_iff {d : Driving Run} {ran : List World} : d.Pends c ran w w' ↔
    ∃ last v, d.Turns c ran w last ∧ d.runJobs c last = .ok () v ∧ d.isSettled c v = .ok false w' := by
  constructor
  · intro h
    induction h with
    | asked jobs pending => exact ⟨_, _, .none, jobs, pending⟩
    | turn jobs pending timer rest ih =>
      obtain ⟨last, v, turns, ends⟩ := ih
      exact ⟨last, v, .turn jobs pending timer turns, ends⟩
  · rintro ⟨last, v, turns, jobs, pending⟩
    induction turns with
    | none => exact .asked jobs pending
    | turn jobs' pending' timer rest ih => exact .turn jobs' pending' timer (ih jobs)

/-- How an evaluation that stays pending ends: with all timers used up that may run, whether or not another one is
set, or before that with no timer to run. -/
theorem drive_eq_error_iff {d : Driving Run} {left runs : Nat} {e : Error} :
    d.drive left runs c w = .ok (.error e) w' ↔ ∃ ran asked, d.Pends c ran w asked ∧
      (ran.length = left ∧ e = .timerBudgetExhausted (runs + left) ∧ w' = asked ∨
        ran.length < left ∧ e = .scriptUnsettled ∧ d.runTimer c asked = .ok false w') := by
  rw [Driving.drive_eq_iff]
  constructor
  · rintro ⟨ran, last, turns, -, ends⟩
    cases ends with
    | exhausted jobs pending all =>
      exact ⟨ran, w', Driving.pends_iff.mpr ⟨last, _, turns, jobs, pending⟩, .inl ⟨Nat.add_left_cancel all, rfl, rfl⟩⟩
    | @unsettled v asked _ jobs pending fewer timer =>
      exact ⟨ran, asked, Driving.pends_iff.mpr ⟨last, v, turns, jobs, pending⟩,
        .inr ⟨Nat.lt_of_add_lt_add_left fewer, rfl, timer⟩⟩
  · rintro ⟨ran, asked, pends, ends⟩
    obtain ⟨last, v, turns, jobs, pending⟩ := Driving.pends_iff.mp pends
    refine ⟨ran, last, turns, ?_⟩
    rcases ends with ⟨rfl, rfl, rfl⟩ | ⟨fewer, rfl, timer⟩
    · exact ⟨Nat.le_refl _, .exhausted jobs pending rfl⟩
    · exact ⟨Nat.le_of_lt fewer, .unsettled jobs pending (Nat.add_lt_add_left fewer runs) timer⟩

/-- Each turn of an evaluation has fired a timer, if the runner of timers was where it was put. -/
theorem Driving.Pends.exists_fired {n : Nat} {ran : List World}
    (pends : (kernel (n + 1)).driving.Pends c ran w w') (runners : ∀ u ∈ ran, HasRunner u) :
    ∃ ds, w'.realm.timers = w.realm.timers.afterAll ds ∧ ran.length ≤ (w.realm.timers.fired ds).length := by
  -- A turn fires one timer itself; scripts may fire others in between, so there can be more.
  induction pends with
  | asked jobs pending =>
    obtain ⟨ds, first⟩ := Run.exists_deeds_of_ok jobs
    obtain ⟨es, second⟩ := Run.exists_deeds_of_ok pending
    exact ⟨ds ++ es, by rw [second, first, Timers.afterAll_append], Nat.zero_le _⟩
  | @turn ran w v u w₁ w' jobs pending timer rest ih =>
    obtain ⟨ds, first⟩ := Run.exists_deeds_of_ok jobs
    obtain ⟨es, second⟩ := Run.exists_deeds_of_ok pending
    have before : u.realm.timers = w.realm.timers.afterAll (ds ++ es) := by
      rw [second, first, Timers.afterAll_append]
    rcases driving_runTimer_answer (runners u (.head _)) timer with ⟨no, -⟩ | ⟨-, some, fs, third⟩
    · cases no
    · obtain ⟨gs, last, fired⟩ := ih fun u hu => runners u (.tail _ hu)
      have now : w₁.realm.timers = u.realm.timers.afterAll (.fire :: fs) := third
      have one := Timers.length_fired_pos fs some
      refine ⟨ds ++ es ++ (.fire :: fs ++ gs), ?_, ?_⟩
      · rw [last, now, before, Timers.afterAll_append _ (ds ++ es), Timers.afterAll_append _ (.fire :: fs)]
      · rw [now] at fired
        rw [Timers.fired_append _ (ds ++ es), ← before, Timers.fired_append _ (.fire :: fs), List.length_append,
          List.length_append, List.length_cons]
        omega

/-! ### Evaluations -/

theorem not_isPending_of_outcome {k : Kernel} {e : Error} (h : k.outcome c w = .ok (.error e) w') : ¬e.IsPending := by
  obtain ⟨v, v₁, -, h⟩ := exists_of_bind h
  split at h
  · obtain ⟨a, v₂, -, h⟩ := exists_of_bind h
    obtain ⟨b, v₃, -, h⟩ := exists_of_bind h
    cases h
  · obtain ⟨a, v₂, -, h⟩ := exists_of_bind h
    obtain ⟨b, v₃, -, h⟩ := exists_of_bind h
    cases h
    simp [Error.IsPending]

/-- What ends pending has begun and was driven so far. -/
theorem exists_of_evaluate {k : Evaluator} {source : CodeUnits} {e : Error} (pending : e.IsPending)
    (h : k.evaluate source c w = .ok (.error e) w') :
    ∃ v begun, byWindow (k.callGlobal "__hl_begin" [.text source]) c w = .ok v begun ∧
      k.driving.drive k.maxTimerRuns 0 c begun = .ok (.error e) w' := by
  obtain ⟨⟨⟩, begun, begins, h⟩ := exists_of_bind h
  obtain ⟨v, begins⟩ := exists_of_discard begins
  obtain ⟨r, v', driven, h⟩ := exists_of_bind h
  refine ⟨v, begun, begins, ?_⟩
  cases r with
  | error e' =>
    cases h
    exact driven
  | ok runs =>
    have outcome : ∃ v, k.outcome c v = .ok (.error e) w' := by
      dsimp only at h
      split at h
      · obtain ⟨⟨⟩, v, -, h⟩ := exists_of_bind h
        exact ⟨v, h⟩
      · exact ⟨v', h⟩
    obtain ⟨v, outcome⟩ := outcome
    exact absurd pending (not_isPending_of_outcome outcome)

/-- An evaluation ends pending exactly if it has begun and its driving ends so. -/
theorem evaluateWhole_eq_error_iff {k : Evaluator} {source : CodeUnits} {e : Error} (pending : e.IsPending) :
    k.evaluateWhole source c w = .ok (.error e) w' ↔ ∃ v begun,
      byWindow (k.callGlobal "__hl_begin" [.text source]) c w = .ok v begun ∧
        k.driving.drive k.maxTimerRuns 0 c begun = .ok (.error e) w' := by
  constructor
  · intro h
    cases run : k.evaluate source c w with
    | ok r v =>
      cases (Act.tryCatch_of_ok run).symm.trans h
      exact exists_of_evaluate pending run
    | error a v =>
      refine absurd pending ?_
      have h := (Act.tryCatch_of_error run).symm.trans h
      cases a with
      | thrown value =>
        obtain ⟨text, v', -, h⟩ := exists_of_bind h
        cases h
        simp [Error.IsPending]
      | limit text =>
        cases h
        simp [Error.IsPending]
      | broken =>
        cases h
        simp [Error.IsPending]
  · rintro ⟨v, begun, begins, driven⟩
    have begins : (discard (byWindow (k.callGlobal "__hl_begin" [.text source])) : Run PUnit) c w = .ok ⟨⟩ begun :=
      (bind_of_ok begins _).trans rfl
    have ended : k.evaluate source c w = .ok (.error e) w' := by
      rw [Evaluator.evaluate, bind_of_ok begins, bind_of_ok driven]
      rfl
    exact Act.tryCatch_of_ok ended

theorem not_isPending_of_realmFault {config : ScriptConfig} {e : Error} (h : realmFault? config = some e) :
    ¬e.IsPending := by
  rw [realmFault?] at h
  split_ifs at h <;> cases h <;> simp [Error.IsPending]

end Script

namespace Session

variable {s : Session} {w : WindowId} {x : Window} {observe : Observer} {source : String} {e : Error}

/-- A script that is not too large has begun, and is driven from this world on. -/
inductive Begun (observe : Observer) (s : Session) (w : WindowId) (source : String) (x : Window) : World → Prop
  | again {m v begun} (fits : Utf8.size source ≤ x.config.maxBytes) (idle : x.realm = .idle m)
    (begins : byWindow (x.kernel.callGlobal "__hl_begin" [.text (handedOver source)]) (x.context observe)
      ⟨m, (s.enter x.page).setRealm w .busy⟩ = .ok v begun) : Begun observe s w source x begun
  | first {made v begun} (fits : Utf8.size source ≤ x.config.maxBytes) (absent : x.realm = .absent)
    (faultless : realmFault? x.config = none)
    (makes : (do x.kernel.enterDocument x.page.document x.url; Script.note (realmRecord x)) (x.context observe)
      ⟨.bare, (s.enter x.page).setRealm w .busy⟩ = .ok () made)
    (begins : byWindow (x.kernel.callGlobal "__hl_begin" [.text (handedOver source)]) (x.context observe) made =
      .ok v begun) : Begun observe s w source x begun

theorem runIn_eq_error_iff {α : Type} {m : Realm} {steps : Evaluator → Run (Except Error α)} (pending : e.IsPending) :
    (runIn .own observe s w x m steps).1 = .error e ↔
      ∃ world, steps x.kernel (x.context observe) ⟨m, s.setRealm w .busy⟩ = .ok (.error e) world := by
  rw [runIn]
  cases (steps x.kernel).act .own (x.context observe) ⟨m, s.setRealm w .busy⟩ with
  | ok r world =>
    constructor
    · rintro rfl
      exact ⟨world, rfl⟩
    · rintro ⟨world', run⟩
      cases run
      rfl
  | error a world =>
    refine iff_of_false (fun h => ?_) ?_
    · cases h
      simp [Error.IsPending] at pending
    · rintro ⟨world', run⟩
      cases run

/-- A script ends pending in a window exactly if it has begun there and its driving ends so. -/
theorem evaluateActive_eq_error_iff (pending : e.IsPending) (fits : Utf8.size source ≤ x.config.maxBytes) :
    (evaluateActive .own observe (s.enter x.page) w x source).1 = .error e ↔ ∃ begun world,
      s.Begun observe w source x begun ∧
        x.kernel.driving.drive x.config.maxTimerRuns 0 (x.context observe) begun = .ok (.error e) world := by
  rw [evaluateActive]
  constructor
  · intro h
    split at h
    next =>
      cases h
      simp [Error.IsPending] at pending
    next m idle =>
      obtain ⟨world, run⟩ := (runIn_eq_error_iff pending).mp h
      obtain ⟨v, begun, begins, driven⟩ := (evaluateWhole_eq_error_iff pending).mp run
      exact ⟨begun, world, .again fits idle begins, driven⟩
    next absent =>
      split at h
      next fault known =>
        cases h
        exact absurd pending (not_isPending_of_realmFault known)
      next faultless =>
        obtain ⟨world, run⟩ := (runIn_eq_error_iff pending).mp h
        obtain ⟨⟨⟩, v₁, enters, run⟩ := exists_of_bind run
        obtain ⟨⟨⟩, made, notes, run⟩ := exists_of_bind run
        obtain ⟨v, begun, begins, driven⟩ := (evaluateWhole_eq_error_iff pending).mp run
        exact ⟨begun, world, .first fits absent faultless ((bind_of_ok enters _).trans notes) begins, driven⟩
  · rintro ⟨begun, world, begun', driven⟩
    cases begun' with
    | again fits idle begins =>
      rw [idle]
      exact (runIn_eq_error_iff pending).mpr
        ⟨world, (evaluateWhole_eq_error_iff pending).mpr ⟨_, begun, begins, driven⟩⟩
    | first fits absent faultless makes begins =>
      rw [absent, faultless]
      have run := (evaluateWhole_eq_error_iff pending).mpr ⟨_, begun, begins, driven⟩
      obtain ⟨⟨⟩, v₁, enters, notes⟩ := exists_of_bind makes
      exact (runIn_eq_error_iff pending).mpr ⟨world, (bind_of_ok enters _).trans ((bind_of_ok notes _).trans run)⟩

/-- An evaluation ends pending exactly if its script has begun and its driving ends so. -/
theorem evaluateBy_eq_error_iff (pending : e.IsPending) :
    (s.evaluateBy .own observe w source).1 = .error e ↔ ∃ x begun world,
      s.windows[w]? = some x ∧ s.Begun observe w source x begun ∧
        x.kernel.driving.drive x.config.maxTimerRuns 0 (x.context observe) begun = .ok (.error e) world := by
  rw [evaluateBy]
  cases found : s.windows[w]? with
  | none =>
    refine iff_of_false (fun h => ?_) ?_
    · cases h
      simp [Error.IsPending] at pending
    · rintro ⟨x, begun, world, no, -⟩
      cases no
    -- A script that is too large is refused before it can begin.
  | some x =>
    dsimp only
    split
    next large =>
      refine iff_of_false (fun h => ?_) ?_
      · cases h
        simp [Error.IsPending] at pending
      · rintro ⟨y, begun, world, same, begins, -⟩
        cases same
        cases begins with
        | again fits => exact Nat.not_lt.mpr fits large
        | first fits => exact Nat.not_lt.mpr fits large
    next notLarge =>
      have here : (evaluateActive .own observe (s.enter x.page) w x source).1 = .error e ↔ _ :=
        evaluateActive_eq_error_iff pending (Nat.not_lt.mp notLarge)
      refine here.trans ⟨?_, ?_⟩
      · rintro ⟨begun, world, h⟩
        exact ⟨x, begun, world, rfl, h⟩
      · rintro ⟨y, begun, world, same, h⟩
        cases same
        exact ⟨begun, world, h⟩

/-- An evaluation ends pending exactly if its script has begun and stays pending until it is asked the last time: with
all timers used up after as many as may run, or unsettled after fewer if the runner of timers finds none. -/
theorem evaluate_eq_error_iff (nested : ∀ r s, Nested s (observe r s)) (pending : e.IsPending) :
    (s.evaluate observe w source).1 = .error e ↔ ∃ x begun ran asked,
      s.windows[w]? = some x ∧ s.Begun observe w source x begun ∧
        x.kernel.driving.Pends (x.context observe) ran begun asked ∧
        (ran.length = x.config.maxTimerRuns ∧ e = .timerBudgetExhausted x.config.maxTimerRuns ∨
          ran.length < x.config.maxTimerRuns ∧ e = .scriptUnsettled ∧
            ∃ v, x.kernel.driving.runTimer (x.context observe) asked = .ok false v) := by
  have keeps : Keeping observe := fun r s => (nested r s).keeps
  rw [evaluate_eq keeps, evaluateBy_eq_error_iff pending]
  constructor
  · rintro ⟨x, begun, world, found, begins, driven⟩
    obtain ⟨ran, asked, pends, ends⟩ := drive_eq_error_iff.mp driven
    rw [Nat.zero_add] at ends
    refine ⟨x, begun, ran, asked, found, begins, pends, ends.imp ?_ ?_⟩
    · rintro ⟨length, eq, -⟩
      exact ⟨length, eq⟩
    · rintro ⟨less, eq, timer⟩
      exact ⟨less, eq, world, timer⟩
  · rintro ⟨x, begun, ran, asked, found, begins, pends, ends⟩
    rcases ends with ⟨length, eq⟩ | ⟨less, eq, v, timer⟩
    · exact ⟨x, begun, asked, found, begins,
        drive_eq_error_iff.mpr ⟨ran, asked, pends, .inl ⟨length, (Nat.zero_add _).symm ▸ eq, rfl⟩⟩⟩
    · exact ⟨x, begun, v, found, begins, drive_eq_error_iff.mpr ⟨ran, asked, pends, .inr ⟨less, eq, timer⟩⟩⟩

end Session

namespace Script

/-! ### A window in which nothing settles -/

theorem runJobs_none {l : Finding} {k : Kernel} {n : Nat} (jobs : w.realm.jobs = [])
    (laterJobs : w.realm.laterJobs = []) : (k.runJobs (n + 1)).act l c w = .ok () w := by
  have none : nextJob?.act l c w = .ok none w := by
    rw [nextJob?, bind_of_ok realm_run, jobs, laterJobs]
    rfl
  exact (bind_of_ok none _).trans rfl

theorem driving_runJobs {k : Kernel} (jobs : w.realm.jobs = []) (laterJobs : w.realm.laterJobs = []) :
    k.driving.runJobs c w = .ok () w :=
  runJobs_none (c := { c with frames := 0, stack := 0 }) jobs laterJobs

/-- A realm in which scripts have put other values in the place of what begins an evaluation and of its record: nothing
is begun, and nothing ever settles. -/
def Realm.stuck : Realm :=
  { (default : Realm) with
    timers := .start 0.0
    objects := (intrinsicObjects.modify Intrinsic.global.ref
      (·.setProperty "__hl_begin" (.plain (.object Intrinsic.functions.ref)))).modify Intrinsic.global.ref
      (·.setProperty evaluationKey (.plain (.object Intrinsic.objects.ref))) }

theorem objectAt_stuck {r : Ref} (h : r ≠ Intrinsic.global.ref) :
    objectAt Realm.stuck.objects r = objectAt intrinsicObjects r :=
  (objectAt_modify_ne h).trans (objectAt_modify_ne h)

theorem own_stuck : (objectAt Realm.stuck.objects Intrinsic.global.ref).own? "__hl_begin" =
      some (.plain (.object Intrinsic.functions.ref)) ∧
    (objectAt Realm.stuck.objects Intrinsic.global.ref).own? evaluationKey =
      some (.plain (.object Intrinsic.objects.ref)) := by
  let o : Obj := objectAt intrinsicObjects Intrinsic.global.ref
  have plain (key : Name) : o.inherent? key = none := rfl
  have at_ : objectAt Realm.stuck.objects Intrinsic.global.ref =
      (o.setProperty "__hl_begin" (.plain (.object Intrinsic.functions.ref))).setProperty evaluationKey
        (.plain (.object Intrinsic.objects.ref)) := rfl
  have other : evaluationKey ≠ CodeUnits.ofString "__hl_begin" := by decide
  rw [at_]
  constructor
  · rw [own_setProperty ((inherent_setProperty _ _ _ _).trans (plain _)), if_neg other, own_setProperty (plain _),
      if_pos rfl]
  · rw [own_setProperty ((inherent_setProperty _ _ _ _).trans (plain _)), if_pos rfl]

/-- In such a realm an evaluation begins with nothing. -/
theorem begin_stuck {n : Nat} {s : Session} (args : List Value) (room : c.Room 1 1) :
    (kernel (n + 1)).callGlobal "__hl_begin" args c ⟨.stuck, s⟩ = .ok .undefined ⟨.stuck, s⟩ := by
  have shape : (objectAt Realm.stuck.objects Intrinsic.functions.ref).shape = .native .nothing false := by
    rw [objectAt_stuck (by decide)]
    change (nativeObject .nothing "" 0 false).shape = _
    rw [nativeObject, functionObject, shape_setProperty, shape_setProperty]
    rfl
  have called : (kernel n).callValue (.object Intrinsic.functions.ref) .undefined args c ⟨.stuck, s⟩ =
      .ok .undefined ⟨.stuck, s⟩ := by
    rw [Kernel.callValue, bind_of_ok (object_run _), shape]
    exact bind_of_ok (checkLimits_run room) _
  rw [Kernel.callGlobal, bind_of_ok (global_run own_stuck.1)]
  exact called

/-- In such a realm an evaluation never settles. -/
theorem isSettled_stuck {k : Kernel} {s : Session} :
    k.driving.isSettled c ⟨.stuck, s⟩ = .ok false ⟨.stuck, s⟩ := by
  -- What stands in the place of the record has no such part, and what is undefined is not true.
  have absent : lookUp Realm.stuck.objects (Realm.stuck.objects.size + 1) Intrinsic.objects.ref "settled" = none := by
    have same := objectAt_stuck (r := Intrinsic.objects.ref) (by decide)
    exact lookUp_top (same ▸ own_ofShape_plain _ _) (same ▸ rfl)
  have recorded : k.recorded "settled" c ⟨.stuck, s⟩ = .ok .undefined ⟨.stuck, s⟩ := by
    refine (bind_of_ok (c := { c with frames := 1, stack := 2 }) (global_run own_stuck.2) _).trans ?_
    refine (bind_of_ok (findProperty_run _ _) _).trans ?_
    rw [absent]
    rfl
  exact (bind_of_ok recorded _).trans rfl

end Script

namespace Session

/-- A window on an empty document with such a realm, in which no timer may run. -/
def stuck : Session := { windows := #[⟨(default : Document).numbered, none, { maxTimerRuns := 0 }, .idle .stuck⟩] }

/-- A script ends there with all timers used up, and the realm is as it was. -/
theorem evaluate_stuck : stuck.evaluate .quiet 0 "" = (.error (.timerBudgetExhausted 0), stuck) := by
  let x : Window := ⟨(default : Document).numbered, none, { maxTimerRuns := 0 }, .idle .stuck⟩
  let c := x.context .quiet
  let s : Session := (stuck.enter x.page).setRealm 0 .busy
  obtain ⟨n, levels⟩ : ∃ n, x.config.levels = n + 1 := ⟨_, rfl⟩
  have driven : (kernel (n + 1)).driving.drive 0 0 c ⟨.stuck, s⟩ =
      .ok (.error (.timerBudgetExhausted 0)) ⟨.stuck, s⟩ :=
    drive_eq_error_iff.mpr ⟨[], _, .asked (driving_runJobs rfl rfl) isSettled_stuck, .inl ⟨rfl, rfl, rfl⟩⟩
  have run : (Evaluator.mk (kernel (n + 1)) 0).evaluateWhole (handedOver "") c ⟨.stuck, s⟩ =
      .ok (.error (.timerBudgetExhausted 0)) ⟨.stuck, s⟩ :=
    (evaluateWhole_eq_error_iff (.inr ⟨0, rfl⟩)).mpr
      ⟨_, _, begin_stuck (c := { c with frames := 1, stack := 2 }) _ ⟨by decide, by decide⟩, driven⟩
  have keeps : Keeping .quiet := fun _ s => .refl s
  rw [evaluate_eq keeps]
  rw [evaluateBy, show stuck.windows[0]? = some x from rfl]
  have ran : runIn .own .quiet (stuck.enter x.page) 0 x .stuck (fun k => k.evaluateWhole (handedOver "")) =
      (.error (.timerBudgetExhausted 0), s.setRealm 0 (.idle .stuck)) := by
    have kernel : x.kernel = ⟨Script.kernel (n + 1), 0⟩ := by rw [Window.kernel, levels]
    rw [runIn, kernel, run]
  dsimp only
  rw [if_neg (by decide)]
  change ((runIn .own .quiet (stuck.enter x.page) 0 x .stuck fun k => k.evaluateWhole (handedOver "")).1,
    (runIn .own .quiet (stuck.enter x.page) 0 x .stuck fun k => k.evaluateWhole (handedOver "")).2.leave) = _
  rw [ran]
  rfl

/-! ### How an evaluation ends -/

/-- What is said of how an evaluation ends that was pending to the end, after so many timers ran and with this left in
the realm when it was asked the last time: with nothing left to run it can never settle, and all timers that may run
are used up only if as many ran and another one is set. -/
def AsSaid (e : Error) (most ran : Nat) (left : Realm) : Prop :=
  (left.jobs = [] → left.laterJobs = [] → left.timers.pending = [] → e = .scriptUnsettled) ∧
    ∀ n, e = .timerBudgetExhausted n → n = most ∧ ran = most ∧ left.timers.pending ≠ []

/-- An evaluation that was pending to the end was asked the last time after some timers. If as many had run as may run,
all are used up, whether or not another one was set; otherwise none was set and it can never settle. So it ends as it
is said except if as many timers ran as may run and no other one was set. -/
theorem evaluate_pending (observe : Observer) (nested : ∀ r s, Nested s (observe r s)) (s : Session) (w : WindowId)
    (source : String) (e : Error) (pending : e.IsPending) (ended : (s.evaluate observe w source).1 = .error e) :
    ∃ x begun ran asked, s.windows[w]? = some x ∧ s.Begun observe w source x begun ∧
      x.kernel.driving.Pends (x.context observe) ran begun asked ∧
      (e = .timerBudgetExhausted x.config.maxTimerRuns ∧ ran.length = x.config.maxTimerRuns ∨
        e = .scriptUnsettled ∧ ran.length < x.config.maxTimerRuns ∧
          (HasRunner asked → asked.realm.timers.pending = [])) ∧
      ((∀ u ∈ ran, HasRunner u) → ∃ ds, asked.realm.timers = begun.realm.timers.afterAll ds ∧
        ran.length ≤ (begun.realm.timers.fired ds).length) ∧
      (asked.realm.jobs = [] → asked.realm.laterJobs = [] →
        (AsSaid e x.config.maxTimerRuns ran.length asked.realm ↔
          ¬(ran.length = x.config.maxTimerRuns ∧ asked.realm.timers.pending = []))) := by
  obtain ⟨x, begun, ran, asked, found, begins, pends, ends⟩ := (evaluate_eq_error_iff nested pending).mp ended
  refine ⟨x, begun, ran, asked, found, begins, pends, ?_, fun runners => pends.exists_fired runners, ?_⟩
  · refine ends.imp And.symm ?_
    rintro ⟨less, eq, v, timer⟩
    refine ⟨eq, less, fun runner => ?_⟩
    rcases driving_runTimer_answer runner timer with ⟨-, none⟩ | ⟨no, -⟩
    · exact none
    · cases no
  · intro jobs laterJobs
    rcases ends with ⟨length, rfl⟩ | ⟨less, rfl, -⟩
    · simp [AsSaid, jobs, laterJobs, length]
    · simp [AsSaid, Nat.ne_of_lt less]

theorem evaluate_pending_stuck :
    ∃ x begun asked, stuck.windows[0]? = some x ∧ stuck.Begun .quiet 0 "" x begun ∧
      x.kernel.driving.Pends (x.context .quiet) [] begun asked := by
  obtain ⟨x, begun, ran, asked, found, begins, pends, ends, -⟩ :=
    evaluate_pending .quiet (fun _ s => .refl s) stuck 0 "" (.timerBudgetExhausted 0) (.inr ⟨0, rfl⟩)
      (congrArg Prod.fst evaluate_stuck)
  cases Option.some.inj found
  rcases ends with ⟨-, length⟩ | ⟨no, -⟩
  · cases List.length_eq_zero_iff.mp length
    exact ⟨_, begun, asked, found, begins, pends⟩
  · cases no

/-- All timers are used up, though none has run and nothing is left that could run. -/
theorem evaluate_stuck_exhausted :
    (stuck.evaluate .quiet 0 "").1 = .error (.timerBudgetExhausted 0) ∧
      ∃ x m, (stuck.evaluate .quiet 0 "").2.windows[0]? = some x ∧ x.realm = .idle m ∧
        m.jobs = [] ∧ m.laterJobs = [] ∧ m.timers.pending = [] := by
  rw [evaluate_stuck]
  exact ⟨rfl, _, .stuck, rfl, rfl, rfl, rfl, rfl⟩

end Session

end Pagewalk
