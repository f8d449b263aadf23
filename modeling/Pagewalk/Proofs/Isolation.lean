import Pagewalk.Proofs.Script.Leftover

/-!
# Evaluations do not settle one another

A realm outlives the evaluations of its window, and with it the functions that settle their records, the jobs and the
timers. So what an earlier evaluation left behind runs inside a later one. It settles earlier records only
(`Session.evaluate_isolated`). But a record is put on what scripts have under the name of the outermost scope, and read
from that scope itself: where a script has put another object there, an evaluation reads the record of an earlier one
(`Session.evaluate_rebound`).
-/

namespace Pagewalk

open Script Text

/-! ### Sessions -/

namespace Session

variable {s s' : Session} {w : WindowId} {x : Window} {observe : Observer} {source : String} {l : Finding}

/-- In the realms of a session functions settle records that were there before them. -/
def Tidy (s : Session) : Prop :=
  ∀ (i : WindowId) (x : Window) (m : Realm), s.windows[i]? = some x → x.realm = .idle m → m.Tidy

theorem Tidy.of_eq (h : s.Tidy) (windows : s'.windows = s.windows) : s'.Tidy := by
  intro i x m found
  rw [windows] at found
  exact h i x m found

theorem Tidy.setRealm (h : s.Tidy) (w : WindowId) {r : RealmState} (tidy : ∀ m, r = .idle m → m.Tidy) :
    (s.setRealm w r).Tidy := by
  intro i x m found idle
  rw [windows_setRealm] at found
  split at found
  · obtain ⟨y, -, rfl⟩ := Option.map_eq_some_iff.mp found
    exact tidy m idle
  · exact h i x m found idle

theorem Tidy.openWindow (h : s.Tidy) (d : Document) (url : Option Url) (config : ScriptConfig) :
    (s.openWindow d url config).2.Tidy := by
  intro i x m found idle
  change (s.windows.push _)[i]? = some x at found
  rw [Array.getElem?_push] at found
  split at found
  · cases found
    cases idle
  · exact h i x m found idle

/-- A watcher that leaves tidy sessions tidy. -/
def TidyWatcher (observe : Observer) : Prop := ∀ r s, Tidy s → Tidy (observe r s)

theorem tidy_run {α : Type} (step : Run α) {c : Context} (watcher : TidyWatcher c.observe) {u : World}
    (h : u.session.Tidy) : (finalWorld (step.act l c u)).session.Tidy := by
  -- Steps change the realm they run in; those of other windows change only in what the watcher does.
  refine step.stepwise.keeps (R := fun u v => u.session.Tidy → v.session.Tidy) ?_ ?_ ?_ ?_ ?_ ?_ u h
  · exact fun _ h => h
  · exact fun first next h => next (first h)
  · exact fun _ _ _ _ h => h
  · exact fun _ _ _ h => h
  · exact fun _ _ h => h
  · exact fun r w h => watcher r _ (h.of_eq rfl)

theorem tidy_runIn {α : Type} (watcher : TidyWatcher observe) {m : Realm} (tidy : m.Tidy)
    (steps : Evaluator → Run (Except Error α)) (h : s.Tidy) : (runIn l observe s w x m steps).2.Tidy := by
  let c := x.context observe
  have busy : (s.setRealm w .busy).Tidy := h.setRealm w nofun
  have session := tidy_run (steps x.kernel) (l := l) (c := c) (u := ⟨m, s.setRealm w .busy⟩) watcher busy
  have grows := (steps x.kernel).grows l c ⟨m, s.setRealm w .busy⟩
  rw [runIn]
  cases run : (steps x.kernel).act l c ⟨m, s.setRealm w .busy⟩ with
  | ok r world =>
    rw [run] at session grows
    exact session.setRealm w fun m' same => RealmState.idle.inj same ▸ tidy.grows grows
  | error e world =>
    rw [run] at session grows
    exact session.setRealm w fun m' same => RealmState.idle.inj same ▸ tidy.grows grows

/-- An evaluation leaves a tidy session tidy, however it ends, if its watcher does. -/
theorem tidy_evaluateBy (watcher : TidyWatcher observe) (l : Finding) (h : s.Tidy) (w : WindowId) (source : String) :
    (evaluateBy l observe s w source).2.Tidy := by
  rw [evaluateBy]
  split
  next => exact h
  next x found =>
    dsimp only
    split
    next => exact h
    next =>
      have entered : (s.enter x.page).Tidy := h.of_eq rfl
      have active : (evaluateActive l observe (s.enter x.page) w x source).2.Tidy := by
        rw [evaluateActive]
        split
        next => exact entered
        next m idle => exact tidy_runIn watcher (h w x m found idle) _ entered
        next absent =>
          split
          next => exact entered
          next => exact tidy_runIn watcher Realm.tidy_bare _ entered
      exact active.of_eq rfl

theorem Nested.tidy (h : Nested s s') : s.Tidy → s'.Tidy := by
  induction h with
  | refl s => exact id
  | trans first next ih ihNext => exact fun h => ihNext (ih h)
  | write windows active => exact fun h => h.of_eq windows
  | opened s d url config => exact fun h => h.openWindow d url config
  | evaluated observe nested s w source ih => exact fun h => tidy_evaluateBy ih .active h w source

/-! ### Evaluations -/

/-- An evaluation comes to run in this world: in the realm that its window has, or in one that is made for it. -/
inductive Opens (observe : Observer) (s : Session) (w : WindowId) (x : Window) : World → Prop
  | again {m} (idle : x.realm = .idle m) : Opens observe s w x ⟨m, (s.enter x.page).setRealm w .busy⟩
  | first {made} (absent : x.realm = .absent) (faultless : realmFault? x.config = none)
    (makes : (do x.kernel.enterDocument x.page.document x.url; Script.note (realmRecord x)) (x.context observe)
      ⟨.bare, (s.enter x.page).setRealm w .busy⟩ = .ok () made) : Opens observe s w x made

theorem Opens.tidy {begun : World} (opens : s.Opens observe w x begun) (h : s.Tidy) (found : s.windows[w]? = some x) :
    begun.realm.Tidy := by
  cases opens with
  | again idle => exact h w x _ found idle
  | first absent faultless makes =>
    have tidy := Realm.tidy_bare
    have grows := Run.grows_of_ok makes
    -- The realm at its start is not to be computed here.
    generalize Realm.bare = m at tidy grows
    exact tidy.grows grows

theorem runIn_of_ok {α : Type} {m : Realm} {steps : Evaluator → Run (Except Error α)} {r : Except Error α} {u : World}
    (h : steps x.kernel (x.context observe) ⟨m, s.setRealm w .busy⟩ = .ok r u) :
    (runIn .own observe s w x m steps).1 = r := by
  have run : (steps x.kernel).act .own (x.context observe) ⟨m, s.setRealm w .busy⟩ =
      .ok r u := h
  rw [runIn, run]

/-- What an evaluation answers that has an outcome in the world in which it comes to run. -/
theorem evaluateBy_of_opens {begun ended : World} {answer : Except Error ScriptValue} (found : s.windows[w]? = some x)
    (fits : Utf8.size source ≤ x.config.maxBytes) (opens : s.Opens observe w x begun)
    (ends : x.kernel.evaluate (handedOver source) (x.context observe) begun = .ok answer ended) :
    (s.evaluateBy .own observe w source).1 = answer := by
  have whole : x.kernel.evaluateWhole (handedOver source) (x.context observe) begun = .ok answer ended :=
    Act.tryCatch_of_ok ends
  have active : (evaluateActive .own observe (s.enter x.page) w x source).1 = answer := by
    rw [evaluateActive]
    cases opens with
    | again idle =>
      rw [idle]
      exact runIn_of_ok whole
    | first absent faultless makes =>
      rw [absent, faultless]
      obtain ⟨⟨⟩, v, enters, notes⟩ := exists_of_bind makes
      exact runIn_of_ok ((bind_of_ok enters _).trans ((bind_of_ok notes _).trans whole))
  rw [evaluateBy, found]
  dsimp only
  rw [if_neg (Nat.not_lt.mpr fits)]
  exact active

/-- However evaluations came before one, and however many are nested in it: where scripts leave its record and the name
of that alone, it answers what its record says, and what stands there was entered by the two functions that were made
for it. Functions of earlier evaluations settle earlier records, and when they are called they leave this one alone. -/
theorem evaluate_isolated {s₀ : Session} (tidy : s₀.Tidy) (reached : Nested s₀ s)
    (nested : ∀ r s, Nested s (observe r s)) (found : s.windows[w]? = some x)
    (fits : Utf8.size source ≤ x.config.maxBytes) {begun ended : World} (opens : s.Opens observe w x begun)
    (place : begun.realm.InPlace) {answer : Except Error ScriptValue}
    (ends : x.kernel.evaluate (handedOver source) (x.context observe) begun = .ok answer ended)
    (spared : (x.kernel.evaluate (handedOver source)).act (.sparing begun.realm.objects.size) (x.context observe) begun =
      x.kernel.evaluate (handedOver source) (x.context observe) begun) :
    (s.evaluate observe w source).1 = answer ∧
      (∃ entries more, ended.realm.Holds begun.realm.objects.size (entries ++ more) ∧
        (Record.after entries).Answers answer) ∧
      ended.realm.Isolates begun.realm.objects.size ∧ SettlersSpare begun.realm.objects.size := by
  have keeps : Keeping observe := fun r s => (nested r s).keeps
  obtain ⟨n, levels⟩ : ∃ n, x.config.levels = n + 1 := ⟨_, rfl⟩
  have kernel : x.kernel = ⟨Script.kernel (n + 1), x.config.maxTimerRuns⟩ := by rw [Window.kernel, levels]
  have run := spared.trans ends
  rw [kernel] at run
  obtain ⟨said, grows⟩ := answers_of_evaluate place run
  refine ⟨?_, said, ?_, settlersSpare _⟩
  · rw [evaluate_eq keeps]
    exact evaluateBy_of_opens found fits opens ends
  · exact (opens.tidy (reached.tidy tidy) found).isolates grows

/-- A window on an empty document whose realm an evaluation left with a job to do. -/
def leftoverWindow (scope : Ref) : Window := ⟨(default : Document).numbered, none, {}, .idle (.leftover scope)⟩

def leftover (scope : Ref) : Session := { windows := #[leftoverWindow scope] }

/-- The world in which an evaluation begins there. -/
def leftoverWorld (scope : Ref) : World :=
  ⟨.leftover scope, ((leftover scope).enter (leftoverWindow scope).page).setRealm 0 .busy⟩

/-- The world in which an evaluation of a script that is undefined ends. -/
def leftoverEnded (scope : Ref) : World :=
  let m := Realm.leftover scope
  ⟨(m.begun scope).evaluated m.objects.size Realm.unbegun.objects.size m.iterations, (leftoverWorld scope).session⟩

theorem opens_leftover (scope : Ref) :
    (leftover scope).Opens .quiet 0 (leftoverWindow scope) (leftoverWorld scope) := .again rfl

theorem tidy_leftover (scope : Ref) : (leftover scope).Tidy := by
  intro i x m found idle
  match i, found with
  | 0, found =>
    cases found
    cases idle
    exact Realm.tidy_leftover
  | i + 1, found => cases found

theorem inPlace_leftover : (leftoverWorld Intrinsic.global.ref).realm.InPlace := by
  have L := Realm.leftover_leftover Intrinsic.global.ref
  exact ⟨L.begins, L.plain, ⟨_, _, _, L.itself⟩, ⟨_, _, _, L.named⟩⟩

/-- There are more levels of calls than are needed there. -/
theorem exists_kernel_leftover (scope : Ref) : ∃ n, (leftoverWindow scope).config.levels = n + 2 ∧
    (leftoverWindow scope).kernel = ⟨Script.kernel (n + 2), 1024⟩ := by
  obtain ⟨n, levels⟩ : ∃ n, (leftoverWindow scope).config.levels = n + 2 := ⟨_, rfl⟩
  exact ⟨n, levels, by rw [Window.kernel, levels]; rfl⟩

theorem evaluate_isolated_leftover :
    let scope := Intrinsic.global.ref
    ((leftover scope).evaluate .quiet 0 "").1 = .ok .undefined ∧
      (∃ entries more, (leftoverEnded scope).realm.Holds (leftoverWorld scope).realm.objects.size (entries ++ more) ∧
        (Record.after entries).Answers (.ok .undefined)) ∧
      (leftoverEnded scope).realm.Isolates (leftoverWorld scope).realm.objects.size ∧
      SettlersSpare (leftoverWorld scope).realm.objects.size := by
  intro scope
  have L := Realm.leftover_leftover scope
  obtain ⟨n, -, kernel⟩ := exists_kernel_leftover scope
  have run (l : Finding) (allowed : l.AllowsSparing (leftoverWorld scope).realm.objects.size) :
      ((leftoverWindow scope).kernel.evaluate (handedOver "")).act l ((leftoverWindow scope).context .quiet)
        (leftoverWorld scope) = .ok (.ok .undefined) (leftoverEnded scope) := by
    rw [kernel]
    exact evaluate_leftover_own L allowed (by decide) ⟨by decide, by decide⟩ ⟨by decide, by decide⟩
  have ends := run .own allowsSparing_own
  have spared := (run _ allowsSparing_sparing).trans ends.symm
  exact evaluate_isolated (tidy_leftover scope) (.refl _) (fun _ s => .refl s) rfl (by decide) (opens_leftover scope)
    inPlace_leftover ends spared

/-- Where a script has put another object under the name of the outermost scope, an evaluation answers what an earlier
record says, though its own record says something else. -/
theorem evaluate_rebound :
    let scope := Intrinsic.objects.ref
    ((leftover scope).evaluate .quiet 0 "").1 = .ok (.bool true) ∧
      (leftoverEnded scope).realm.Holds Realm.unbegun.objects.size [.success (.bool true)] ∧
      (leftoverEnded scope).realm.objects[(leftoverWorld scope).realm.objects.size]? =
        some (recordAfter [.success .undefined]) ∧
      ¬(Record.after [.success .undefined]).Answers (.ok (.bool true)) := by
  intro scope
  have L := Realm.leftover_leftover scope
  have other : Intrinsic.global.ref ≠ scope := by decide
  have apart : scope ≠ Realm.unbegun.objects.size := by decide
  have ne : (Realm.leftover scope).objects.size ≠ Realm.unbegun.objects.size := (Nat.ne_of_lt L.lt_size).symm
  have inside : scope < (Realm.leftover scope).objects.size := Nat.lt_trans (by decide) L.lt_size
  have same : objectAt (Realm.leftover scope).objects scope = .ofShape none .plain :=
    Realm.objectAt_leftover (by decide) other.symm
  obtain ⟨n, -, kernel⟩ := exists_kernel_leftover scope
  have ends : (leftoverWindow scope).kernel.evaluate (handedOver "") ((leftoverWindow scope).context .quiet)
      (leftoverWorld scope) = .ok (.ok (.bool true)) (leftoverEnded scope) := by
    rw [kernel]
    exact evaluate_leftover_earlier L inside apart other (same ▸ Obj.isPlain_ofShape none) (same ▸ rfl)
      (same ▸ own_ofShape_plain none _) ⟨by decide, by decide⟩ ⟨by decide, by decide⟩
  have keeps : Keeping .quiet := fun _ s => .refl s
  refine ⟨?_, (L.earlier_holds_begun other apart).evaluated_earlier ne,
    Realm.record_evaluated (Realm.record_begun inside) ne, fun answers => ?_⟩
  · rw [evaluate_eq keeps]
    exact evaluateBy_of_opens rfl (by decide) (opens_leftover scope) ends
  · cases answers.2.2

end Session

end Pagewalk
