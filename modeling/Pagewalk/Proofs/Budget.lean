import Pagewalk.Proofs.Isolation
import Pagewalk.Proofs.Script.Lingering

/-!
# How many timers may run

The number of timers that may run in a window is read only when as many have run and an evaluation is still pending. So an
evaluation for which it was enough answers the same and leaves the same realm if more timers may run. No more of them run,
and none runs for a script that ends with a value that is not thenable, where the record of its own evaluation is read
(`Session.evaluate_budget`). Where a script has put another object under the name of the outermost scope, the record of an
earlier evaluation is read, and a timer runs for such a script, too (`Session.evaluate_lingering`).
-/

namespace Pagewalk

open Script Text

/-- A window as it is if so many timers may run in it. -/
def Window.allowing (x : Window) (most : Nat) : Window := { x with config := { x.config with maxTimerRuns := most } }

namespace Session

/-- A session as it is if so many timers may run in a window. -/
def allowing (s : Session) (w : WindowId) (most : Nat) : Session :=
  { s with windows := s.windows.modify w (·.allowing most) }

/-- Two evaluations in a window answer the same and leave its realm in the same state. -/
structure EndAlike {α : Type} (w : WindowId) (a a' : Except Error α × Session) : Prop where
  answer : a'.1 = a.1
  realm : a'.2.windows[w]?.map Window.realm = a.2.windows[w]?.map Window.realm

variable {s s' : Session} {w : WindowId} {x x' : Window} {observe : Observer} {source : String} {l : Finding}
  {most most' : Nat}

theorem windows_allowing (s : Session) (w : WindowId) (most : Nat) :
    (s.allowing w most).windows[w]? = s.windows[w]?.map (·.allowing most) :=
  (Array.getElem?_modify).trans (if_pos rfl)

theorem realm_allowing (s : Session) (w : WindowId) (most : Nat) :
    (s.allowing w most).windows[w]?.map Window.realm = s.windows[w]?.map Window.realm := by
  rw [windows_allowing, Option.map_map]
  rfl

theorem endAlike_refused {α : Type} (s : Session) (w : WindowId) (most most' : Nat) (a : Except Error α) :
    EndAlike w (a, s.allowing w most) (a, s.allowing w most') :=
  ⟨rfl, (s.realm_allowing w most').trans (s.realm_allowing w most).symm⟩

/-! ### More timers -/

theorem realm_runIn {α : Type} (keeps : Keeping observe) (m : Realm) (steps : Evaluator → Run (Except Error α))
    (h : s.windows[w]? = some x) : (runIn l observe s w x m steps).2.windows[w]?.map Window.realm =
      some (.idle (finalWorld ((steps x.kernel).act l (x.context observe) ⟨m, s.setRealm w .busy⟩)).realm) := by
  rw [session_runIn]
  dsimp only
  have kept := keeps_run (l := l) (c := x.context observe) (steps x.kernel) keeps ⟨m, s.setRealm w .busy⟩
  have busied := windows_setRealm s w w .busy
  rw [if_pos rfl, h] at busied
  obtain ⟨r, still, -⟩ := kept.windows w _ busied
  rw [windows_setRealm, if_pos rfl, still]
  rfl

theorem endAlike_runIn {α : Type} {m : Realm} {steps steps' : Evaluator → Run (Except Error α)} (keeps : Keeping observe)
    (h : s.windows[w]? = some x) (h' : s'.windows[w]? = some x')
    (alike : EndsAlike (steps x.kernel (x.context observe) ⟨m, s.setRealm w .busy⟩)
      (steps' x'.kernel (x'.context observe) ⟨m, s'.setRealm w .busy⟩)) :
    EndAlike w (runIn .own observe s w x m steps) (runIn .own observe s' w x' m steps') := by
  constructor
  · rw [runIn, runIn]
    generalize (steps x.kernel).act .own (x.context observe) ⟨m, s.setRealm w .busy⟩ = r at alike
    generalize (steps' x'.kernel).act .own (x'.context observe) ⟨m, s'.setRealm w .busy⟩ = r' at alike
    cases alike <;> rfl
  · rw [realm_runIn keeps m steps h, realm_runIn keeps m steps' h', alike.realm]

/-- A script that was evaluated with enough timers is evaluated alike if more may run. -/
theorem endAlike_runIn_more {m : Realm} {steps : Evaluator → Run (Except Error ScriptValue)} (keeps : Keeping observe)
    (found : s.windows[w]? = some x)
    (same : ∀ (k : Evaluator) (c : Context) (v : World), k.maxTimerRuns ≤ most' → ¬ Exhausts (steps k) c v →
      steps { k with maxTimerRuns := most' } c v = steps k c v)
    (more : most ≤ most') (enough : ∀ n, (runIn .own observe ((s.allowing w most).enter x.page) w (x.allowing most) m
      steps).1 ≠ .error (.timerBudgetExhausted n)) :
    EndAlike w (runIn .own observe ((s.allowing w most).enter x.page) w (x.allowing most) m steps)
      (runIn .own observe ((s.allowing w most').enter x.page) w (x.allowing most') m steps) := by
  have there (n : Nat) : ((s.allowing w n).enter x.page).windows[w]? = some (x.allowing n) :=
    (windows_allowing s w n).trans (congrArg _ found)
  refine endAlike_runIn keeps (there most) (there most') ?_
  let k := (x.allowing most).kernel
  let c := x.context observe
  let v : World := ⟨m, ((s.allowing w most).enter x.page).setRealm w .busy⟩
  have ends : steps { k with maxTimerRuns := most' } c v = steps k c v := by
    refine same k c v more ?_
    rintro ⟨n, world, exhausted⟩
    exact enough n ((runIn_eq_error_iff (.inr ⟨n, rfl⟩)).mpr ⟨world, exhausted⟩)
  -- The other run starts in the same realm, but in a session whose window has the other number.
  have alike := (steps { k with maxTimerRuns := most' }).stepwise.ignores_session c m v.session
    (((s.allowing w most').enter x.page).setRealm w .busy)
  exact ends ▸ alike

theorem endAlike_evaluateActive (keeps : Keeping observe) (found : s.windows[w]? = some x) (more : most ≤ most')
    (enough : ∀ n, (evaluateActive .own observe ((s.allowing w most).enter x.page) w (x.allowing most) source).1 ≠
      .error (.timerBudgetExhausted n)) :
    EndAlike w (evaluateActive .own observe ((s.allowing w most).enter x.page) w (x.allowing most) source)
      (evaluateActive .own observe ((s.allowing w most').enter x.page) w (x.allowing most') source) := by
  have realm (n : Nat) : (x.allowing n).realm = x.realm := rfl
  rw [evaluateActive, realm] at enough ⊢
  rw [evaluateActive, realm]
  cases stands : x.realm with
  | busy => exact ⟨rfl, (endAlike_refused s w most most' (Except.ok ())).realm⟩
  | idle m =>
    rw [stands] at enough
    exact endAlike_runIn_more keeps found (fun k c v => Evaluator.evaluateWhole_more) more enough
  | absent =>
    rw [stands] at enough
    have config (n : Nat) : realmFault? (x.allowing n).config = realmFault? x.config := rfl
    dsimp only at enough ⊢
    rw [config] at enough ⊢
    rw [config]
    cases fault : realmFault? x.config with
    | some e => exact ⟨rfl, (endAlike_refused s w most most' (Except.ok ())).realm⟩
    | none =>
      rw [fault] at enough
      refine endAlike_runIn_more keeps found (fun k c v more => bind_more fun _ v' => ?_) more enough
      exact bind_more fun _ v' => Evaluator.evaluateWhole_more more

/-- An evaluation for which the timers that may run in its window were enough answers the same and leaves the realm of the
window in the same state if more timers may run there. -/
theorem endAlike_evaluateBy (keeps : Keeping observe) (more : most ≤ most')
    (enough : ∀ n, ((s.allowing w most).evaluateBy .own observe w source).1 ≠ .error (.timerBudgetExhausted n)) :
    EndAlike w ((s.allowing w most).evaluateBy .own observe w source)
      ((s.allowing w most').evaluateBy .own observe w source) := by
  rw [evaluateBy, windows_allowing] at enough ⊢
  rw [evaluateBy, windows_allowing]
  cases found : s.windows[w]? with
  | none => exact endAlike_refused s w most most' _
  | some x =>
    rw [found] at enough
    dsimp only [Option.map_some] at enough ⊢
    have bytes (n : Nat) : (x.allowing n).config.maxBytes = x.config.maxBytes := rfl
    simp only [bytes] at enough ⊢
    split
    next => exact endAlike_refused s w most most' _
    next fits =>
      rw [if_neg fits] at enough
      obtain ⟨answer, realm⟩ := endAlike_evaluateActive keeps found more enough
      exact ⟨answer, realm⟩

/-! ### Turns -/

theorem Begun.unique {begun begun' : World} (h : s.Begun observe w source x begun)
    (h' : s.Begun observe w source x begun') : begun = begun' := by
  cases h with
  | again fits idle begins =>
    cases h' with
    | again fits' idle' begins' =>
      cases idle.symm.trans idle'
      cases begins.symm.trans begins'
      rfl
    | first fits' absent' faultless' makes' begins' => cases idle.symm.trans absent'
  | first fits absent faultless makes begins =>
    cases h' with
    | again fits' idle' begins' => cases absent.symm.trans idle'
    | first fits' absent' faultless' makes' begins' =>
      cases makes.symm.trans makes'
      cases begins.symm.trans begins'
      rfl

theorem Begun.exists_opens {begun : World} (h : s.Begun observe w source x begun) :
    Utf8.size source ≤ x.config.maxBytes ∧ ∃ start v, s.Opens observe w x start ∧
      byWindow (x.kernel.callGlobal "__hl_begin" [.text (handedOver source)]) (x.context observe) start = .ok v begun := by
  cases h with
  | again fits idle begins => exact ⟨fits, _, _, .again idle, begins⟩
  | first fits absent faultless makes begins => exact ⟨fits, _, _, .first absent faultless makes, begins⟩

/-- A script that has begun ends pending just if its driving ends so. -/
theorem Begun.pending_iff (nested : ∀ r s, Nested s (observe r s)) (found : s.windows[w]? = some x) {begun : World}
    (h : s.Begun observe w source x begun) {e : Error} (pending : e.IsPending) :
    (s.evaluate observe w source).1 = .error e ↔ ∃ u,
      x.kernel.driving.drive x.config.maxTimerRuns 0 (x.context observe) begun = .ok (.error e) u := by
  rw [evaluate_eq fun r s => (nested r s).keeps, evaluateBy_eq_error_iff pending]
  constructor
  · rintro ⟨x', begun', u, found', begun'', driven⟩
    cases found.symm.trans found'
    exact ⟨u, h.unique begun'' ▸ driven⟩
  · rintro ⟨u, driven⟩
    exact ⟨x, begun, u, found, h, driven⟩

/-- A script that has begun and has ended when it is asked is reported with its outcome. -/
theorem Begun.answer_of_settled (nested : ∀ r s, Nested s (observe r s)) (found : s.windows[w]? = some x)
    {begun u u' : World} {runs : Nat} {answer : Except Error ScriptValue} (h : s.Begun observe w source x begun)
    (driven : x.kernel.driving.drive x.config.maxTimerRuns 0 (x.context observe) begun = .ok (.ok runs) u)
    (outcome : x.kernel.outcome (x.context observe) u = .ok answer u') : (s.evaluate observe w source).1 = answer := by
  obtain ⟨fits, start, v, opens, begins⟩ := h.exists_opens
  obtain ⟨ended, ends⟩ := Evaluator.exists_evaluate_of_settled begins driven outcome
  rw [evaluate_eq fun r s => (nested r s).keeps]
  exact evaluateBy_of_opens found fits opens ends

/-- A script is evaluated where evaluations can begin, and ends with a value that is not thenable. It leaves the record of
its evaluation and the name of that alone, and so do the jobs that it leaves behind. -/
structure EndsAtOnce (observe : Observer) (s : Session) (w : WindowId) (source : String) (x : Window)
    (start begun : World) : Prop where
  opens : s.Opens observe w x start
  place : start.realm.InPlace
  completes : ∃ v u u',
    let k := Script.kernel (x.config.levels - 1)
    let c := Context.inner { x.context observe with frames := 1, stack := 2 } 7
    (k.completion (.text (handedOver source))).act (.sparing start.realm.objects.size) c start.framed = .ok v u ∧
      (k.isThenable v).act (.sparing start.realm.objects.size) c u = .ok false u'
  begins : ∃ v, (byWindow (x.kernel.callGlobal "__hl_begin" [.text (handedOver source)])).act
    (.sparing start.realm.objects.size) (x.context observe) start = .ok v begun
  jobs : x.kernel.driving.runJobs.act (.sparing start.realm.objects.size) (x.context observe) begun =
    x.kernel.driving.runJobs (x.context observe) begun

theorem EndsAtOnce.drive_eq {start begun : World} (h : s.EndsAtOnce observe w source x start begun) (most : Nat) :
    x.kernel.driving.drive most 0 (x.context observe) begun =
      (do x.kernel.driving.runJobs; return .ok 0 : Run (Except Error Nat)) (x.context observe) begun := by
  obtain ⟨v, u, u', completes, plain⟩ := h.completes
  obtain ⟨v', begins⟩ := h.begins
  obtain ⟨n, levels⟩ : ∃ n, x.config.levels = n + 1 := ⟨_, rfl⟩
  rw [levels, Nat.add_sub_cancel] at completes plain
  rw [Window.kernel, levels] at begins
  obtain ⟨es, holds, settled⟩ := settled_of_callBegin (n := n) h.place completes plain begins
  exact drive_of_settled holds settled h.jobs most

/-- How the number of timers that may run in a window bears on an evaluation. If it was enough, the evaluation answers the
same and leaves the same realm if more may run. No more run: the evaluation takes no more turns, and calls the runner of
timers in the last turn only if it has taken fewer. An evaluation that has ended when it is asked is reported so, also
after the last timer that may run. And a script that ends with a value that is not thenable has no timer run, if its
record is read, which is so where evaluations can begin and scripts leave the record alone. -/
theorem evaluate_budget (observe : Observer) (nested : ∀ r s, Nested s (observe r s)) (s : Session) (w : WindowId)
    (source : String) :
    (∀ most most', most ≤ most' →
      (∀ n, ((s.allowing w most).evaluate observe w source).1 ≠ .error (.timerBudgetExhausted n)) →
        EndAlike w ((s.allowing w most).evaluate observe w source) ((s.allowing w most').evaluate observe w source)) ∧
    ∀ x begun, s.windows[w]? = some x → s.Begun observe w source x begun →
      let d := x.kernel.driving
      let c := x.context observe
      let most := x.config.maxTimerRuns
      (∃ ran last r, d.Turns c ran begun last ∧ ran.length ≤ most ∧ d.Ends c most ran.length last r ∧
        ∀ e, e.IsPending → ((s.evaluate observe w source).1 = .error e ↔ ∃ u, r = .ok (.error e) u)) ∧
      (∀ ran last v u, d.Turns c ran begun last → ran.length ≤ most → d.runJobs c last = .ok () v →
        d.isSettled c v = .ok true u →
          (∀ e, e.IsPending → (s.evaluate observe w source).1 ≠ .error e) ∧
          ∀ answer u', x.kernel.outcome c u = .ok answer u' → (s.evaluate observe w source).1 = answer) ∧
      ∀ start, s.EndsAtOnce observe w source x start begun →
        ∀ most, d.drive most 0 c begun = (do d.runJobs; return .ok 0 : Run (Except Error Nat)) c begun := by
  have keeps : Keeping observe := fun r s => (nested r s).keeps
  refine ⟨?monotone, fun x begun found h => ⟨?bounded, ?reported, fun start atOnce => atOnce.drive_eq⟩⟩
  case monotone =>
    intro most most' more enough
    simp only [evaluate_eq keeps] at enough ⊢
    exact endAlike_evaluateBy keeps more enough
  case bounded =>
    obtain ⟨ran, last, turns, few, ends⟩ := Driving.drive_eq_iff.mp
      (rfl : x.kernel.driving.drive x.config.maxTimerRuns 0 (x.context observe) begun = _)
    rw [Nat.zero_add, Nat.zero_add] at ends
    exact ⟨ran, last, _, turns, few, ends, fun e pending => h.pending_iff nested found pending⟩
  case reported =>
    intro ran last v u turns few jobs asked
    have driven : x.kernel.driving.drive x.config.maxTimerRuns 0 (x.context observe) begun = .ok (.ok ran.length) u := by
      refine Driving.drive_eq_iff.mpr ⟨ran, last, turns, few, ?_⟩
      rw [Nat.zero_add, Nat.zero_add]
      exact .settled jobs asked
    refine ⟨fun e pending ended => ?_, fun answer u' outcome => h.answer_of_settled nested found driven outcome⟩
    -- A driving that ends settled ends in no other way.
    obtain ⟨u', driven'⟩ := (h.pending_iff nested found pending).mp ended
    cases driven.symm.trans driven'

/-! ### A window with a job that is left -/

/-- The world in which an evaluation of a script that is undefined has begun in a window that an evaluation has left. -/
def leftoverBegun (scope : Ref) : World := ⟨(Realm.leftover scope).answered scope, (leftoverWorld scope).session⟩

section Leftover

variable (allowed : l.AllowsSparing (leftoverWorld Intrinsic.global.ref).realm.objects.size)

include allowed

theorem begins_leftover : let x := leftoverWindow Intrinsic.global.ref
    (byWindow (x.kernel.callGlobal "__hl_begin" [.text (handedOver "")])).act l (x.context .quiet)
      (leftoverWorld Intrinsic.global.ref) = .ok .undefined (leftoverBegun Intrinsic.global.ref) := by
  intro x
  have L := Realm.leftover_leftover Intrinsic.global.ref
  obtain ⟨n, -, kernel⟩ := exists_kernel_leftover Intrinsic.global.ref
  rw [show x.kernel = _ from kernel]
  exact callBegin_run L.toInterrupted allowed ⟨by decide, by decide⟩ (L.putItself_run allowed) (L.evals_begun L.plain)
    (Realm.record_begun (lt_size_of_own L.itself))

theorem runJobs_leftover : let x := leftoverWindow Intrinsic.global.ref
    x.kernel.driving.runJobs.act l (x.context .quiet) (leftoverBegun Intrinsic.global.ref) =
      .ok () (leftoverEnded Intrinsic.global.ref) := by
  intro x
  have L := Realm.leftover_leftover Intrinsic.global.ref
  obtain ⟨n, -, kernel⟩ := exists_kernel_leftover Intrinsic.global.ref
  rw [show x.kernel = _ from kernel]
  exact runJobs_evaluated (Nat.ne_of_lt L.lt_size).symm L.settles_begun (L.earlier_begun (by decide)) L.jobs L.laterJobs
    ⟨by decide, by decide⟩ allowed

end Leftover

theorem endsAtOnce_leftover : (leftover Intrinsic.global.ref).EndsAtOnce .quiet 0 "" (leftoverWindow Intrinsic.global.ref)
    (leftoverWorld Intrinsic.global.ref) (leftoverBegun Intrinsic.global.ref) := by
  let x := leftoverWindow Intrinsic.global.ref
  let start := leftoverWorld Intrinsic.global.ref
  have L := Realm.leftover_leftover Intrinsic.global.ref
  have sparing : (Finding.sparing start.realm.objects.size).AllowsSparing start.realm.objects.size := allowsSparing_sparing
  obtain ⟨n, levels, -⟩ := exists_kernel_leftover Intrinsic.global.ref
  obtain ⟨u, completes⟩ : ∃ u, ((Script.kernel (x.config.levels - 1)).completion (.text (handedOver ""))).act
      (.sparing start.realm.objects.size) (Context.inner { x.context .quiet with frames := 1, stack := 2 } 7)
      start.framed = .ok .undefined u := by
    rw [levels]
    exact ⟨_, callCompletion_run L.toInterrupted sparing ⟨by decide, by decide⟩ (L.putItself_run sparing)
      (L.evals_begun L.plain)⟩
  exact ⟨opens_leftover _, inPlace_leftover, ⟨.undefined, u, u, completes, rfl⟩, ⟨_, begins_leftover sparing⟩,
    (runJobs_leftover sparing).trans (runJobs_leftover allowsSparing_own).symm⟩

/-- No timer need run there. -/
theorem evaluate_allowing_leftover : let s := leftover Intrinsic.global.ref
    ((s.allowing 0 0).evaluate .quiet 0 "").1 = .ok .undefined := by
  intro s
  let x := (leftoverWindow Intrinsic.global.ref).allowing 0
  have L := Realm.leftover_leftover Intrinsic.global.ref
  obtain ⟨n, levels, -⟩ := exists_kernel_leftover Intrinsic.global.ref
  have kernel : x.kernel = ⟨Script.kernel (n + 2), 0⟩ := by rw [← levels]; rfl
  obtain ⟨ended, ends⟩ : ∃ ended, x.kernel.evaluate (handedOver "") (x.context .quiet)
      ⟨.leftover Intrinsic.global.ref, ((s.allowing 0 0).enter x.page).setRealm 0 .busy⟩ = .ok (.ok .undefined) ended := by
    rw [kernel]
    exact ⟨_, evaluate_leftover_own L allowsSparing_own (by decide) ⟨by decide, by decide⟩ ⟨by decide, by decide⟩⟩
  have keeps : Keeping .quiet := fun _ s => .refl s
  rw [evaluate_eq keeps]
  exact evaluateBy_of_opens rfl (by decide) (.again rfl) ends

theorem evaluate_budget_leftover :
    let scope := Intrinsic.global.ref
    let s := leftover scope
    let x := leftoverWindow scope
    s.Begun .quiet 0 "" x (leftoverBegun scope) ∧
      s.EndsAtOnce .quiet 0 "" x (leftoverWorld scope) (leftoverBegun scope) ∧
      (∀ most, EndAlike 0 ((s.allowing 0 0).evaluate .quiet 0 "") ((s.allowing 0 most).evaluate .quiet 0 "")) ∧
      (s.evaluate .quiet 0 "").1 = .ok .undefined ∧
      ∀ most, x.kernel.driving.drive most 0 (x.context .quiet) (leftoverBegun scope) =
        .ok (.ok 0) (leftoverEnded scope) := by
  intro scope s x
  have L := Realm.leftover_leftover scope
  have holds : (leftoverEnded scope).realm.Holds (leftoverWorld scope).realm.objects.size [.success .undefined] :=
    L.holds_begun.evaluated (Nat.ne_of_lt L.lt_size).symm
  have ran : x.kernel.driving.runJobs (x.context .quiet) (leftoverBegun scope) = .ok () (leftoverEnded scope) :=
    runJobs_leftover allowsSparing_own
  have settled : x.kernel.driving.isSettled (x.context .quiet) (leftoverEnded scope) = .ok true (leftoverEnded scope) :=
    isSettled_run (l := .own) holds
  have outcome : x.kernel.outcome (x.context .quiet) (leftoverEnded scope) = .ok (.ok .undefined) (leftoverEnded scope) :=
    outcome_run (l := .own) holds (by rfl) rfl
  have begun : s.Begun .quiet 0 "" x (leftoverBegun scope) :=
    .again (by decide) rfl (begins_leftover allowsSparing_own)
  have enough (n : Nat) : ((s.allowing 0 0).evaluate .quiet 0 "").1 ≠ .error (.timerBudgetExhausted n) := by
    rw [evaluate_allowing_leftover]
    nofun
  obtain ⟨monotone, turns⟩ := evaluate_budget .quiet (fun _ s => .refl s) s 0 ""
  obtain ⟨-, reported, atOnce⟩ := turns x _ rfl begun
  refine ⟨begun, endsAtOnce_leftover, fun most => monotone 0 most (Nat.zero_le _) enough, ?_, fun most => ?_⟩
  · exact (reported [] _ _ _ .none (Nat.zero_le _) ran settled).2 _ _ outcome
  · exact (atOnce _ endsAtOnce_leftover most).trans (bind_of_ok ran _)

/-! ### A window with a timer that is left -/

/-- A window on an empty document in which one timer may run, and whose realm an evaluation left with a timer. -/
def lingeringWindow (scope : Ref) : Window :=
  ⟨(default : Document).numbered, none, { maxTimerRuns := 1 }, .idle (.lingering scope)⟩

def lingering (scope : Ref) : Session := { windows := #[lingeringWindow scope] }

/-- The world in which an evaluation of a script that is undefined has begun there. -/
def lingeringBegun (scope : Ref) : World :=
  ⟨(Realm.lingering scope).answered scope, ((lingering scope).enter (lingeringWindow scope).page).setRealm 0 .busy⟩

/-- Where a script has put another object under the name of the outermost scope, a timer runs for a script that ends with
a value that is not thenable, and its evaluation is pending then, though its own record says that it has ended. -/
theorem evaluate_lingering :
    let scope := Intrinsic.objects.ref
    let x := lingeringWindow scope
    (lingering scope).Begun .quiet 0 "" x (lingeringBegun scope) ∧
      (lingeringBegun scope).realm.objects[(Realm.lingering scope).objects.size]? =
        some (recordAfter [.success .undefined]) ∧
      (∃ last, x.kernel.driving.Turns (x.context .quiet) [lingeringBegun scope] (lingeringBegun scope) last) ∧
      ((lingering scope).evaluate .quiet 0 "").1 = .error (.timerBudgetExhausted 1) := by
  intro scope x
  have I := Realm.interrupted_lingering scope
  have W := Realm.waiting_lingering scope
  have other : Intrinsic.global.ref ≠ scope := by decide
  have apart : scope ≠ Realm.unbegun.objects.size := by decide
  have inside : scope < (Realm.lingering scope).objects.size := Nat.lt_trans (by decide) I.lt_size
  have same : objectAt (Realm.lingering scope).objects scope = .ofShape none .plain :=
    (Realm.objectAt_lingering_ne (by decide) (by decide) (by decide)).trans (Realm.objectAt_leftover (by decide) other.symm)
  have plain : (objectAt (Realm.lingering scope).objects scope).IsPlain := same ▸ Obj.isPlain_ofShape none
  obtain ⟨n, levels⟩ : ∃ n, x.config.levels = n + 2 := ⟨_, rfl⟩
  have kernel : x.kernel = ⟨Script.kernel (n + 2), 1⟩ := by rw [Window.kernel, levels]; rfl
  have room : Context.Room { x.context .quiet with frames := 1, stack := 2 } 2 20 := ⟨by decide, by decide⟩
  have begins : byWindow (x.kernel.callGlobal "__hl_begin" [.text (handedOver "")]) (x.context .quiet)
      ⟨.lingering scope, ((lingering scope).enter x.page).setRealm 0 .busy⟩ = .ok .undefined (lingeringBegun scope) := by
    rw [kernel]
    exact callBegin_run I allowsSparing_own room (putElsewhere_run inside plain (same ▸ rfl) (same ▸ own_ofShape_plain none _))
      (I.evals_begun plain.shape) (Realm.record_begun inside)
  have begun : (lingering scope).Begun .quiet 0 "" x (lingeringBegun scope) := .again (by decide) rfl begins
  have waits : (lingeringBegun scope).realm.Waiting Realm.unbegun.objects.size := W.answered I plain.shape apart other
  obtain ⟨last, turns, pends⟩ := waits.exists_turn (n := n) room
  rw [show (Script.kernel (n + 2)).driving = x.kernel.driving by rw [kernel]] at turns pends
  refine ⟨begun, Realm.record_answered _ _ inside, ⟨last, turns⟩, ?_⟩
  refine (begun.pending_iff (fun _ s => .refl s) rfl (.inr ⟨1, rfl⟩)).mpr ⟨last, ?_⟩
  exact drive_eq_error_iff.mpr ⟨_, _, pends, .inl ⟨rfl, rfl, rfl⟩⟩

end Session

end Pagewalk
