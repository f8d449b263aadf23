import Pagewalk.Proofs.Script.Inversion
import Pagewalk.Window

/-!
# Turns of an evaluation

An evaluation is driven in turns: jobs run, it is asked whether it has ended, and a timer runs. However driving ends, it
is after some turns that it has taken, no more than timers may run, and in one of a few ways (`drive_eq_iff`). The number
of timers that may run matters to one of these only. So an evaluation for which it was enough ends in the same way if
more timers may run (`Evaluator.evaluateWhole_more`).
-/

namespace Pagewalk.Script

open Text

variable {c : Context} {w w' : World}

namespace Driving

variable {d : Driving Run} {left left' most most' runs : Nat} {r : EStateM.Result Abrupt World (Except Error Nat)}

/-- From one world to another an evaluation takes turns: its jobs run, it is asked and has not ended, and a timer runs.
The worlds in which a timer runs are listed. -/
inductive Turns (d : Driving Run) (c : Context) : (ran : List World) → (begun last : World) → Prop
  | none {w : World} : Turns d c [] w w
  | turn {ran w v u w₁ w'} (jobs : d.runJobs c w = .ok () v) (pending : d.isSettled c v = .ok false u)
    (timer : d.runTimer c u = .ok true w₁) (rest : Turns d c ran w₁ w') : Turns d c (u :: ran) w w'

/-- How an evaluation comes to its end in the last turn, when so many of the timers have run that may run: it has ended,
it is pending after all of them, no timer is there to run before that, or something is broken off. -/
inductive Ends (d : Driving Run) (c : Context) (most ran : Nat) (w : World) :
    EStateM.Result Abrupt World (Except Error Nat) → Prop
  | settled {v w'} (jobs : d.runJobs c w = .ok () v) (settled : d.isSettled c v = .ok true w') :
    Ends d c most ran w (.ok (.ok ran) w')
  | exhausted {v w'} (jobs : d.runJobs c w = .ok () v) (pending : d.isSettled c v = .ok false w') (all : ran = most) :
    Ends d c most ran w (.ok (.error (.timerBudgetExhausted most)) w')
  | unsettled {v u w'} (jobs : d.runJobs c w = .ok () v) (pending : d.isSettled c v = .ok false u) (fewer : ran < most)
    (timer : d.runTimer c u = .ok false w') : Ends d c most ran w (.ok (.error .scriptUnsettled) w')
  | jobsBroken {e w'} (jobs : d.runJobs c w = .error e w') : Ends d c most ran w (.error e w')
  | questionBroken {v e w'} (jobs : d.runJobs c w = .ok () v) (broken : d.isSettled c v = .error e w') :
    Ends d c most ran w (.error e w')
  | timerBroken {v u e w'} (jobs : d.runJobs c w = .ok () v) (pending : d.isSettled c v = .ok false u)
    (fewer : ran < most) (timer : d.runTimer c u = .error e w') : Ends d c most ran w (.error e w')

theorem drive_of_ends (h : d.Ends c (runs + left) runs w r) : d.drive left runs c w = r := by
  unfold drive
  cases h with
  | settled jobs settled =>
    rw [bind_of_ok jobs, bind_of_ok settled]
    rfl
  | exhausted jobs pending all =>
    obtain rfl : left = 0 := Nat.left_eq_add.mp all
    rw [bind_of_ok jobs, bind_of_ok pending]
    rfl
  | unsettled jobs pending fewer timer =>
    obtain ⟨left, rfl⟩ := Nat.exists_eq_add_one_of_ne_zero (Nat.ne_of_gt (Nat.lt_add_right_iff_pos.mp fewer))
    rw [bind_of_ok jobs, bind_of_ok pending]
    exact bind_of_ok timer _
  | jobsBroken jobs => exact bind_of_error jobs _
  | questionBroken jobs broken =>
    rw [bind_of_ok jobs]
    exact bind_of_error broken _
  | timerBroken jobs pending fewer timer =>
    obtain ⟨left, rfl⟩ := Nat.exists_eq_add_one_of_ne_zero (Nat.ne_of_gt (Nat.lt_add_right_iff_pos.mp fewer))
    rw [bind_of_ok jobs, bind_of_ok pending]
    exact bind_of_error timer _

theorem drive_of_turns {ran : List World} (turns : d.Turns c ran w w') (few : ran.length ≤ left) :
    d.drive left runs c w = d.drive (left - ran.length) (runs + ran.length) c w' := by
  induction turns generalizing left runs with
  | none => rfl
  | turn jobs pending timer rest ih =>
    obtain ⟨left, rfl⟩ := Nat.exists_eq_add_one_of_ne_zero (Nat.ne_of_gt (Nat.lt_of_lt_of_le (Nat.succ_pos _) few))
    rw [drive, bind_of_ok jobs, bind_of_ok pending]
    refine (bind_of_ok timer _).trans ((ih (Nat.le_of_succ_le_succ few)).trans ?_)
    rw [List.length_cons, Nat.add_sub_add_right, Nat.add_right_comm, Nat.add_assoc]

/-- Driving comes to its end in the next turn, or the turn is completed. -/
theorem ends_or_turn (d : Driving Run) (c : Context) (w : World) {ran : Nat} (few : ran ≤ most) :
    (∃ r, d.Ends c most ran w r) ∨ ran < most ∧ ∃ u w₁, d.Turns c [u] w w₁ := by
  cases jobs : d.runJobs c w with
  | error e v => exact .inl ⟨_, .jobsBroken jobs⟩
  | ok a v =>
    cases asked : d.isSettled c v with
    | error e u => exact .inl ⟨_, .questionBroken jobs asked⟩
    | ok settled u =>
      cases settled with
      | true => exact .inl ⟨_, .settled jobs asked⟩
      | false =>
        rcases Nat.eq_or_lt_of_le few with all | fewer
        · exact .inl ⟨_, .exhausted jobs asked all⟩
        · cases timer : d.runTimer c u with
          | error e w₁ => exact .inl ⟨_, .timerBroken jobs asked fewer timer⟩
          | ok found w₁ =>
            cases found with
            | false => exact .inl ⟨_, .unsettled jobs asked fewer timer⟩
            | true => exact .inr ⟨fewer, u, w₁, .turn jobs asked timer .none⟩

theorem Turns.trans {ran more : List World} {u : World} (turns : d.Turns c ran w u) (next : d.Turns c more u w') :
    d.Turns c (ran ++ more) w w' := by
  induction turns with
  | none => exact next
  | turn jobs pending timer rest ih => exact .turn jobs pending timer (ih next)

theorem exists_turns (d : Driving Run) (c : Context) (left runs : Nat) (w : World) :
    ∃ ran last r, d.Turns c ran w last ∧ ran.length ≤ left ∧ d.Ends c (runs + left) (runs + ran.length) last r := by
  -- What is left behind a turn is driven like the whole, with one timer fewer and from the world that the turn leads to.
  induction left generalizing runs w with
  | zero =>
    rcases ends_or_turn d c w (Nat.le_refl runs) with ⟨r, ends⟩ | ⟨fewer, -⟩
    · exact ⟨[], w, r, .none, Nat.le_refl _, ends⟩
    · exact absurd fewer (Nat.lt_irrefl _)
  | succ left ih =>
    rcases ends_or_turn d c w (Nat.le_add_right runs (left + 1)) with ⟨r, ends⟩ | ⟨-, u, w₁, turn⟩
    · exact ⟨[], w, r, .none, Nat.zero_le _, ends⟩
    · obtain ⟨ran, last, r, turns, few, ends⟩ := ih (runs + 1) w₁
      refine ⟨u :: ran, last, r, turn.trans turns, Nat.succ_le_succ few, ?_⟩
      rwa [List.length_cons, Nat.add_comm left, ← Nat.add_assoc, Nat.add_comm ran.length, ← Nat.add_assoc]

/-- An evaluation is driven by some turns, no more than there are timers left to run, and by a last one. -/
theorem drive_eq_iff : d.drive left runs c w = r ↔
    ∃ ran last, d.Turns c ran w last ∧ ran.length ≤ left ∧ d.Ends c (runs + left) (runs + ran.length) last r := by
  have driven {ran : List World} {last : World} {r} (turns : d.Turns c ran w last) (few : ran.length ≤ left)
      (ends : d.Ends c (runs + left) (runs + ran.length) last r) : d.drive left runs c w = r := by
    refine (drive_of_turns turns few).trans (drive_of_ends ?_)
    rwa [Nat.add_assoc, Nat.add_sub_cancel' few]
  constructor
  · rintro rfl
    obtain ⟨ran, last, r, turns, few, ends⟩ := exists_turns d c left runs w
    exact ⟨ran, last, turns, few, driven turns few ends ▸ ends⟩
  · rintro ⟨ran, last, turns, few, ends⟩
    exact driven turns few ends

/-- The number of timers that may run matters only where all of them have run. -/
theorem Ends.more {ran : Nat} (h : d.Ends c most ran w r) (more : most ≤ most')
    (enough : ∀ n w', r ≠ .ok (.error (.timerBudgetExhausted n)) w') : d.Ends c most' ran w r := by
  cases h with
  | settled jobs settled => exact .settled jobs settled
  | exhausted jobs pending all => exact absurd rfl (enough most _)
  | unsettled jobs pending fewer timer => exact .unsettled jobs pending (Nat.lt_of_lt_of_le fewer more) timer
  | jobsBroken jobs => exact .jobsBroken jobs
  | questionBroken jobs broken => exact .questionBroken jobs broken
  | timerBroken jobs pending fewer timer => exact .timerBroken jobs pending (Nat.lt_of_lt_of_le fewer more) timer

theorem drive_more (more : left ≤ left')
    (enough : ∀ n w', d.drive left runs c w ≠ .ok (.error (.timerBudgetExhausted n)) w') :
    d.drive left' runs c w = d.drive left runs c w := by
  obtain ⟨ran, last, turns, few, ends⟩ := drive_eq_iff.mp (rfl : d.drive left runs c w = _)
  exact drive_eq_iff.mpr
    ⟨ran, last, turns, Nat.le_trans few more, ends.more (Nat.add_le_add_left more runs) enough⟩

end Driving

/-! ### Evaluations -/

/-- The number of timers that may run was not enough for an evaluation to end. -/
def Exhausts {α : Type} (step : Run (Except Error α)) (c : Context) (w : World) : Prop :=
  ∃ n w', step c w = .ok (.error (.timerBudgetExhausted n)) w'

theorem bind_more {α β : Type} {first : Run α} {next next' : α → Run (Except Error β)}
    (same : ∀ a v, ¬ Exhausts (next a) c v → next' a c v = next a c v) (enough : ¬ Exhausts (first >>= next) c w) :
    (first >>= next') c w = (first >>= next) c w := by
  cases run : first c w with
  | error e v => rw [bind_of_error run, bind_of_error run]
  | ok a v =>
    rw [bind_of_ok run, bind_of_ok run]
    refine same a v fun ⟨n, w', exhausted⟩ => enough ⟨n, w', ?_⟩
    rw [bind_of_ok run, exhausted]

namespace Evaluator

variable {k : Evaluator} {source : CodeUnits} {most : Nat}

theorem evaluate_more (more : k.maxTimerRuns ≤ most) (enough : ¬ Exhausts (k.evaluate source) c w) :
    ({ k with maxTimerRuns := most } : Evaluator).evaluate source c w = k.evaluate source c w := by
  refine bind_more (fun _ v enough => ?_) enough
  have same : k.driving.drive most 0 c v = k.driving.drive k.maxTimerRuns 0 c v := by
    refine Driving.drive_more more fun n w' exhausted => enough ⟨n, w', ?_⟩
    rw [bind_of_ok exhausted]
    rfl
  cases driven : k.driving.drive k.maxTimerRuns 0 c v with
  | error e u => rw [bind_of_error driven, bind_of_error (same.trans driven)]
  | ok r u => rw [bind_of_ok driven, bind_of_ok (same.trans driven)]

/-- An evaluation for which the timers that may run were enough ends in the same way if more of them may run. -/
theorem evaluateWhole_more (more : k.maxTimerRuns ≤ most) (enough : ¬ Exhausts (k.evaluateWhole source) c w) :
    ({ k with maxTimerRuns := most } : Evaluator).evaluateWhole source c w = k.evaluateWhole source c w :=
  Act.tryCatch_congr (evaluate_more more fun ⟨n, w', exhausted⟩ => enough ⟨n, w', Act.tryCatch_of_ok exhausted⟩)

/-- An evaluation that has ended is reported with its outcome, however many timers have run. -/
theorem exists_evaluate_of_settled {v : Value} {begun u u' : World} {runs : Nat} {answer : Except Error ScriptValue}
    (begins : byWindow (k.callGlobal "__hl_begin" [.text source]) c w = .ok v begun)
    (driven : k.driving.drive k.maxTimerRuns 0 c begun = .ok (.ok runs) u) (outcome : k.outcome c u = .ok answer u') :
    ∃ ended, k.evaluate source c w = .ok answer ended := by
  have begins : (discard (byWindow (k.callGlobal "__hl_begin" [.text source])) : Run PUnit) c w = .ok ⟨⟩ begun :=
    (bind_of_ok begins _).trans rfl
  rw [evaluate, bind_of_ok begins, bind_of_ok driven]
  dsimp only
  split
  · -- A line of the log is written first, and the watcher may change the session.
    let r : Log.Record := ⟨.debug, .window, "script settled after " ++ toString runs ++ " timer callbacks"⟩
    have alike := k.outcome.stepwise.ignores_session c u.realm u.session (c.observe r (u.session.note r))
    rw [show k.outcome.act .own c ⟨u.realm, u.session⟩ = _ from outcome] at alike
    obtain ⟨s, same⟩ := alike.exists_ok
    exact ⟨⟨u'.realm, s⟩, same⟩
  · exact ⟨u', outcome⟩

end Evaluator

end Pagewalk.Script
