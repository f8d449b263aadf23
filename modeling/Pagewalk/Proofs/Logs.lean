import Pagewalk.Proofs.Script.Upkeep
import Pagewalk.Window

/-!
# The log is not read

Whatever a script does, it does the same whatever was logged before: no step of a script reads the log. So a script
that no watcher follows answers the same in sessions that differ in their logs only, and leaves such sessions.
-/

namespace Pagewalk

open Script Text

/-- The session with another log. -/
def Session.withLog (s : Session) (records : Array Log.Record) : Session := { s with records }

/-- The sessions differ in their logs only. -/
def Session.SameButLog (s s' : Session) : Prop := ∃ records, s' = s.withLog records

namespace Script

/-- The world with another log in its session. -/
def World.withLog (w : World) (records : Array Log.Record) : World := { w with session := w.session.withLog records }

/-- How a step ends, with another log in the world that it leaves. -/
def logging {α : Type} (records : Array Log.Record) : EStateM.Result Abrupt World α → EStateM.Result Abrupt World α
  | .ok a w => .ok a (w.withLog records)
  | .error e w => .error e (w.withLog records)

theorem Stepwise.ignores_log {α : Type} {act : Act α} (step : Stepwise act) {l : Finding} {c : Context}
    (quiet : c.observe = .quiet) (w : World) (records : Array Log.Record) :
    ∃ later, act l c (w.withLog records) = logging later (act l c w) := by
  -- Steps add to the log, so the other log that is left is not the one that was there.
  induction step generalizing c w records with
  | pure a => exact ⟨records, rfl⟩
  | throw e => exact ⟨records, rfl⟩
  | context => exact ⟨records, rfl⟩
  | realm => exact ⟨records, rfl⟩
  | change f keeps =>
    refine ⟨records, ?_⟩
    cases l with
    | own => rfl
    | active => rfl
    | restricted allowed =>
      change (if allowed w.realm (f w.realm) then _ else _) = logging _ (if allowed w.realm (f w.realm) then _ else _)
      split <;> rfl
  | enter r e => exact ⟨records, rfl⟩
  | timers d => exact ⟨records, rfl⟩
  | page? => cases l <;> exact ⟨records, rfl⟩
  | record r =>
    refine ⟨records.push r, ?_⟩
    change EStateM.Result.ok () { w.withLog records with session := c.observe r ((w.withLog records).session.note r) } =
      logging _ (.ok () { w with session := c.observe r (w.session.note r) })
    rw [quiet]
    rfl
  | within g body ih =>
    let c' : Context := { c with frames := (g c).frames, stack := (g c).stack, converting := (g c).converting }
    exact ih (c := c') quiet w records
  | @bind _ _ m f first next ih ihNext =>
    obtain ⟨later, begun⟩ := ih quiet w records
    cases h : m l c w with
    | ok a w' =>
      rw [h] at begun
      rw [Act.bind_of_ok h, Act.bind_of_ok begun]
      exact ihNext a quiet w' later
    | error e w' =>
      rw [h] at begun
      rw [Act.bind_of_error h, Act.bind_of_error begun]
      exact ⟨later, rfl⟩
  | @tryCatch _ m handle body handler ih ihHandler =>
    obtain ⟨later, begun⟩ := ih quiet w records
    cases h : m l c w with
    | ok a w' =>
      rw [h] at begun
      rw [Act.tryCatch_of_ok h, Act.tryCatch_of_ok begun]
      exact ⟨later, rfl⟩
    | error e w' =>
      rw [h] at begun
      rw [Act.tryCatch_of_error h, Act.tryCatch_of_error begun]
      exact ihHandler e quiet w' later

end Script

namespace Session

variable {s s' : Session}

theorem SameButLog.refl (s : Session) : s.SameButLog s := ⟨s.records, rfl⟩

theorem SameButLog.trans {s'' : Session} : s.SameButLog s' → s'.SameButLog s'' → s.SameButLog s'' := by
  rintro ⟨_, rfl⟩ ⟨later, rfl⟩
  exact ⟨later, rfl⟩

theorem sameButLog_note (s : Session) (r : Log.Record) : s.SameButLog (s.note r) := ⟨_, rfl⟩

theorem SameButLog.note (h : s.SameButLog s') (r r' : Log.Record) : (s.note r).SameButLog (s'.note r') := by
  obtain ⟨records, rfl⟩ := h
  exact ⟨_, rfl⟩

theorem SameButLog.noteAll (h : s.SameButLog s') (rs : List Log.Record) :
    (rs.foldl Session.note s).SameButLog (rs.foldl Session.note s') := by
  induction rs generalizing s s' with
  | nil => exact h
  | cons r rs ih => exact ih (h.note r r)

theorem sameButLog_noteAll (s : Session) (rs : List Log.Record) : s.SameButLog (rs.foldl Session.note s) := by
  induction rs generalizing s with
  | nil => exact .refl s
  | cons r rs ih => exact (sameButLog_note s r).trans (ih _)

theorem SameButLog.openWindow (h : s.SameButLog s') (d : Document) (url : Option Url) (config : ScriptConfig) :
    (s'.openWindow d url config).1 = (s.openWindow d url config).1 ∧
      (s.openWindow d url config).2.SameButLog (s'.openWindow d url config).2 := by
  obtain ⟨records, rfl⟩ := h
  exact ⟨rfl, records, rfl⟩

/-- An answer with the session that it leaves, where another log was there before. -/
def SameAnswer {α : Type} (a a' : α × Session) : Prop := a'.1 = a.1 ∧ a.2.SameButLog a'.2

theorem SameButLog.runIn {α : Type} (h : s.SameButLog s') (l : Finding) (w : WindowId) (x : Window) (m : Realm)
    (steps : Evaluator → Run (Except Error α)) :
    SameAnswer (runIn l .quiet s w x m steps) (Session.runIn l .quiet s' w x m steps) := by
  obtain ⟨records, rfl⟩ := h
  let c := x.context .quiet
  obtain ⟨later, same⟩ := (steps x.kernel).stepwise.ignores_log (l := l) (c := c) rfl
    ⟨m, s.setRealm w .busy⟩ records
  have same : (steps x.kernel).act l c ⟨m, (s.withLog records).setRealm w .busy⟩ =
      logging later ((steps x.kernel).act l c ⟨m, s.setRealm w .busy⟩) := same
  rw [Session.runIn, Session.runIn, same]
  cases (steps x.kernel).act l c ⟨m, s.setRealm w .busy⟩ with
  | ok r world => exact ⟨rfl, later, rfl⟩
  | error e world => exact ⟨rfl, later, rfl⟩

/-- A script that nobody watches answers the same whatever stands in the log, and leaves sessions that differ in
their logs only. -/
theorem SameButLog.evaluate (h : s.SameButLog s') (w : WindowId) (source : String) :
    SameAnswer (s.evaluate .quiet w source) (s'.evaluate .quiet w source) := by
  obtain ⟨records, rfl⟩ := h
  have entered (x : Window) : (s.enter x.page).SameButLog ((s.withLog records).enter x.page) := ⟨records, rfl⟩
  have active (x : Window) : SameAnswer (evaluateActive .active .quiet (s.enter x.page) w x source)
      (evaluateActive .active .quiet ((s.withLog records).enter x.page) w x source) := by
    rw [evaluateActive, evaluateActive]
    split
    next => exact ⟨rfl, entered x⟩
    next m _ => exact (entered x).runIn .active w x m _
    next =>
      split
      next => exact ⟨rfl, entered x⟩
      next => exact (entered x).runIn .active w x .bare _
  have windows : (s.withLog records).windows = s.windows := rfl
  rw [Session.evaluate, Session.evaluate, evaluateBy, evaluateBy, windows]
  split
  next => exact ⟨rfl, records, rfl⟩
  next x _ =>
    dsimp only
    split
    next => exact ⟨rfl, records, rfl⟩
    next =>
      obtain ⟨answer, later, left⟩ := active x
      exact ⟨answer, later, congrArg leave left⟩

end Session

end Pagewalk
