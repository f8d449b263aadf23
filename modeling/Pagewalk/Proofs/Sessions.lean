import Pagewalk.Proofs.Script.Upkeep
import Pagewalk.Window

/-!
# Evaluations in one another

While a script runs, the watcher of the console may act: it may open windows and evaluate scripts in any window, whose
watchers may do the same. What is done so keeps the active documents and all busy windows as they are (`Keeps`), by
induction on how it is nested. So each script finds the document of its own window, whatever was evaluated in between.
-/

namespace Pagewalk

open Script Text

namespace Session

variable {s s' s'' : Session} {w : WindowId} {x : Window} {observe : Observer} {source : String} {l : Finding}

/-! ### What is kept -/

/-- The active documents are the same, all windows are still there, and those are busy that were. -/
structure Keeps (s s' : Session) : Prop where
  active : s'.active = s.active
  windows : ∀ (i : WindowId) (x : Window), s.windows[i]? = some x →
    ∃ r, s'.windows[i]? = some { x with realm := r } ∧ (r = .busy ↔ x.realm = .busy)

theorem Keeps.refl (s : Session) : s.Keeps s := ⟨rfl, fun _ x h => ⟨x.realm, h, .rfl⟩⟩

theorem Keeps.trans (K : s.Keeps s') (K' : s'.Keeps s'') : s.Keeps s'' where
  active := K'.active.trans K.active
  windows i x h := by
    obtain ⟨r, h', busy⟩ := K.windows i x h
    obtain ⟨r', h'', busy'⟩ := K'.windows i _ h'
    exact ⟨r', h'', busy'.trans busy⟩

theorem Keeps.of_eq (windows : s'.windows = s.windows) (active : s'.active = s.active) : s.Keeps s' :=
  ⟨active, fun _ x h => ⟨x.realm, windows ▸ h, .rfl⟩⟩

theorem keeps_openWindow (s : Session) (d : Document) (url : Option Url) (config : ScriptConfig) :
    s.Keeps (s.openWindow d url config).2 := by
  refine ⟨rfl, fun i x h => ⟨x.realm, ?_, .rfl⟩⟩
  have inside := (Array.getElem?_eq_some_iff.mp h).1
  change (s.windows.push _)[i]? = some x
  rw [Array.getElem?_push, if_neg (Nat.ne_of_lt inside), h]

theorem keeps_note (s : Session) (r : Log.Record) : s.Keeps (s.note r) := .of_eq rfl rfl

/-- A watcher that keeps what sessions have. -/
def Keeping (observe : Observer) : Prop := ∀ r s, Keeps s (observe r s)

/-! ### One evaluation -/

theorem windows_setRealm (s : Session) (w i : WindowId) (r : RealmState) :
    (s.setRealm w r).windows[i]? =
      if w = i then s.windows[i]?.map fun x => { x with realm := r } else s.windows[i]? :=
  Array.getElem?_modify

/-- Where a realm is taken out of its window and put back, with only what is kept between, all is kept. -/
theorem keeps_setRealm {m : Realm} (h : s.windows[w]? = some x) (free : x.realm ≠ .busy)
    (K : (s.setRealm w .busy).Keeps s') : s.Keeps (s'.setRealm w (.idle m)) := by
  refine ⟨K.active, fun i y hy => ?_⟩
  have busied := windows_setRealm s w i .busy
  have back := windows_setRealm s' w i (.idle m)
  by_cases same : w = i
  · subst same
    cases h.symm.trans hy
    rw [if_pos rfl, h] at busied
    obtain ⟨r, h', -⟩ := K.windows w _ busied
    rw [if_pos rfl, h'] at back
    exact ⟨.idle m, back, iff_of_false nofun free⟩
  · rw [if_neg same, hy] at busied
    obtain ⟨r, h', busy⟩ := K.windows i y busied
    rw [if_neg same, h'] at back
    exact ⟨r, back, busy⟩

/-- A script keeps what its watcher keeps. -/
theorem keeps_run {α : Type} (step : Run α) {c : Context} (keeps : Keeping c.observe) (world : World) :
    world.session.Keeps (finalWorld (step.act l c world)).session :=
  step.stepwise.keeps (R := fun u v => u.session.Keeps v.session) (fun _ => .refl _) .trans
    (fun _ _ _ _ => .refl _) (fun _ _ _ => .refl _) (fun _ _ => .refl _) (fun r w => (keeps_note w.session r).trans (keeps r _)) world

/-- However a script ends, its window has the realm that it left. -/
theorem session_runIn {α : Type} (m : Realm) (steps : Evaluator → Run (Except Error α)) :
    (runIn l observe s w x m steps).2 =
      let world := finalWorld ((steps x.kernel).act l (x.context observe) ⟨m, s.setRealm w .busy⟩)
      world.session.setRealm w (.idle world.realm) := by
  rw [runIn]
  dsimp only
  cases (steps x.kernel).act l (x.context observe) ⟨m, s.setRealm w .busy⟩ <;> rfl

theorem keeps_runIn {α : Type} (keeps : Keeping observe) (m : Realm) (steps : Evaluator → Run (Except Error α))
    (h : s.windows[w]? = some x) (free : x.realm ≠ .busy) : s.Keeps (runIn l observe s w x m steps).2 := by
  rw [session_runIn]
  exact keeps_setRealm h free (keeps_run (steps x.kernel) keeps ⟨m, s.setRealm w .busy⟩)

/-- What is done while the document of an evaluation is active is kept when it is active no longer. -/
theorem Keeps.leave {d : NumberedDocument} (K : (s.enter d).Keeps s') : s.Keeps s'.leave :=
  ⟨congrArg List.tail K.active, K.windows⟩

theorem keeps_evaluateActive (keeps : Keeping observe) (h : s.windows[w]? = some x) (source : String) :
    s.Keeps (evaluateActive l observe s w x source).2 := by
  rw [evaluateActive]
  split
  next => exact .refl s
  next m idle => exact keeps_runIn keeps m _ h (idle ▸ nofun)
  next absent =>
    split
    next => exact .refl s
    next => exact keeps_runIn keeps _ _ h (absent ▸ nofun)

/-- An evaluation keeps what its watcher keeps, however it ends. -/
theorem keeps_evaluateBy (keeps : Keeping observe) (l : Finding) (s : Session) (w : WindowId) (source : String) :
    s.Keeps (evaluateBy l observe s w source).2 := by
  rw [evaluateBy]
  split
  next => exact .refl s
  next x h =>
    dsimp only
    split
    next => exact .refl s
    next => exact (keeps_evaluateActive keeps (s := s.enter x.page) h source).leave

/-! ### The document of a script -/

/-- A script reads the document of its own window. -/
theorem runIn_eq {α : Type} (keeps : Keeping observe) (m : Realm) (steps : Evaluator → Run (Except Error α))
    (own : s.active.head? = some x.page) : runIn .active observe s w x m steps = runIn .own observe s w x m steps := by
  rw [runIn, runIn, ((steps x.kernel).stepwise.reads_own (fun r s => (keeps r s).active) own).1]

theorem evaluate_eq (keeps : Keeping observe) (s : Session) (w : WindowId) (source : String) :
    s.evaluate observe w source = s.evaluateBy .own observe w source := by
  have same (x : Window) : evaluateActive .active observe (s.enter x.page) w x source =
      evaluateActive .own observe (s.enter x.page) w x source := by
    rw [evaluateActive, evaluateActive]
    simp only [runIn_eq (w := w) (x := x) keeps _ _ (rfl : (s.enter x.page).active.head? = some x.page)]
  rw [evaluate, evaluateBy, evaluateBy]
  simp only [same]

/-! ### Nesting -/

/-- What may come of a session while a script runs in it: more records and answers, more windows, and evaluations
whose watchers do no more than this. -/
inductive Nested : Session → Session → Prop
  | refl (s : Session) : Nested s s
  | trans {s s' s'' : Session} (first : Nested s s') (next : Nested s' s'') : Nested s s''
  | write {s s' : Session} (windows : s'.windows = s.windows) (active : s'.active = s.active) : Nested s s'
  | opened (s : Session) (d : Document) (url : Option Url) (config : ScriptConfig) :
    Nested s (s.openWindow d url config).2
  | evaluated (observe : Observer) (nested : ∀ r s, Nested s (observe r s)) (s : Session) (w : WindowId)
    (source : String) : Nested s (s.evaluate observe w source).2

theorem Nested.keeps (h : Nested s s') : s.Keeps s' := by
  induction h with
  | refl s => exact .refl s
  | trans first next ih ihNext => exact ih.trans ihNext
  | write windows active => exact .of_eq windows active
  | opened s d url config => exact keeps_openWindow s d url config
  | evaluated observe nested s w source ih => exact keeps_evaluateBy ih .active s w source

/-- A busy window evaluates no script. -/
theorem evaluate_busy (observe : Observer) (source : String) (h : s.windows[w]? = some x) (busy : x.realm = .busy) :
    s.evaluate observe w source =
      (.error (if Utf8.size source > x.config.maxBytes then .scriptTooLarge (Utf8.size source) x.config.maxBytes
        else .scriptReentrant), s) := by
  rw [evaluate, evaluateBy, h]
  simp only [evaluateActive, busy]
  split <;> rfl

/-- However evaluations are nested, and however they end: each script reads the document of its own window, a busy
window refuses the script and is as it was, and when the evaluation has ended the same documents are active as when it
began, the same windows are busy, and no window has got another document. -/
theorem evaluate_nested (observe : Observer) (nested : ∀ r s, Nested s (observe r s)) (s : Session) (w : WindowId)
    (source : String) :
    s.evaluate observe w source = s.evaluateBy .own observe w source ∧
      s.Keeps (s.evaluate observe w source).2 ∧
      ∀ x, s.windows[w]? = some x → x.realm = .busy →
        s.evaluate observe w source =
          (.error (if Utf8.size source > x.config.maxBytes then .scriptTooLarge (Utf8.size source) x.config.maxBytes
            else .scriptReentrant), s) := by
  have keeps : Keeping observe := fun r s => (nested r s).keeps
  exact ⟨evaluate_eq keeps s w source, keeps_evaluateBy keeps .active s w source,
    fun x h busy => evaluate_busy observe source h busy⟩

/-- A watcher that evaluates a script at each line of the console does no more than what may be done meanwhile. -/
theorem nested_evaluating (w : WindowId) (source : String) (r : Log.Record) (s : Session) :
    Nested s (Observer.evaluating w source r s) := by
  rw [Observer.evaluating]
  split
  next => exact .trans (.evaluated .quiet (fun _ s => .refl s) s w source) (.write rfl rfl)
  next => exact .refl s

/-- A window on an empty document whose script is running, before one on the same document that is free. -/
def oneBusy : Session :=
  let page := (default : Document).numbered
  { windows := #[⟨page, none, {}, .busy⟩, ⟨page, none, {}, .absent⟩], active := [page] }

theorem evaluate_nested_oneBusy :
    oneBusy.evaluate (.evaluating 1 "1") 0 "1" = (.error .scriptReentrant, oneBusy) ∧
      oneBusy.evaluate (.evaluating 0 "1") 1 "1" = oneBusy.evaluateBy .own (.evaluating 0 "1") 1 "1" ∧
      (oneBusy.evaluate (.evaluating 0 "1") 1 "1").2.active = oneBusy.active := by
  obtain ⟨same, keeps, -⟩ := evaluate_nested (.evaluating 0 "1") (nested_evaluating 0 "1") oneBusy 1 "1"
  refine ⟨?_, same, keeps.active⟩
  exact (evaluate_nested (.evaluating 1 "1") (nested_evaluating 1 "1") oneBusy 0 "1").2.2 _ rfl rfl

end Session

end Pagewalk
