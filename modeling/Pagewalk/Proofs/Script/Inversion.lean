import Pagewalk.Proofs.Script.Intact
import Pagewalk.Proofs.Script.Upkeep

/-!
# What an answer tells of its step

A step that is put together from others and has an answer has it because each of them had one. So a run that went well
is taken apart into the runs of its parts, and a call into the run of what was called, in a frame of its own.
-/

namespace Pagewalk.Script

open Text

variable {α β : Type} {l : Finding} {c : Context} {w w' : World}

/-! ### Sequences -/

theorem exists_of_bind {step : Run α} {next : α → Run β} {b : β} (h : (step >>= next).act l c w = .ok b w') :
    ∃ a v, step.act l c w = .ok a v ∧ (next a).act l c v = .ok b w' := by
  cases first : step.act l c w with
  | ok a v => exact ⟨a, v, rfl, (bind_of_ok first next).symm.trans h⟩
  | error e v => cases (Act.bind_of_error first).symm.trans h

theorem exists_of_discard {step : Run α} (h : (discard step : Run PUnit).act l c w = .ok () w') :
    ∃ a, step.act l c w = .ok a w' := by
  obtain ⟨a, v, first, h⟩ := exists_of_bind h
  cases h
  exact ⟨a, first⟩

/-- A change of the realm that goes well has been made. -/
theorem eq_of_modifyRealm {f : Realm → Realm} {upholds : ∀ m : Realm, m.Upholds (f m)}
    (h : (modifyRealm f upholds).act l c w = .ok () w') : w' = { w with realm := f w.realm } := by
  rcases l.change_cases f c w with ⟨-, run⟩ | run <;> cases run.symm.trans h
  rfl

theorem timers_of_countIterations {n : Nat} (h : countIterations n c w = .ok () w') :
    w'.realm.timers = w.realm.timers := by
  induction n generalizing w with
  | zero =>
    cases h
    rfl
  | succ n ih =>
    obtain ⟨⟨⟩, v, one, h⟩ := exists_of_bind h
    refine (ih h).trans ?_
    rw [countIteration, bind_of_ok read_run, bind_of_ok realm_run] at one
    dsimp only at one
    split_ifs at one <;> cases one
    rfl

/-! ### Calls -/

theorem eq_of_checkLimits {values : Nat} (h : (checkLimits values).act l c w = .ok () w') : w' = w := by
  rw [checkLimits, bind_of_ok read_run] at h
  split_ifs at h <;> cases h
  rfl

/-- A call that has an answer has it from its step, in a frame of its own. -/
theorem exists_of_inFrame {step : Run α} {values : Nat} {a : α} (h : (inFrame values step).act l c w = .ok a w') :
    ∃ v, step.act l (c.inner values) w.framed = .ok a v ∧
      w' = { v with realm := { v.realm with iterations := w.realm.iterations } } := by
  rw [inFrame, bind_of_ok realm_run] at h
  obtain ⟨⟨⟩, u, first, h⟩ := exists_of_bind h
  cases eq_of_modifyRealm first
  obtain ⟨outcome, u, caught, h⟩ := exists_of_bind h
  obtain ⟨⟨⟩, u', last, h⟩ := exists_of_bind h
  cases eq_of_modifyRealm last
  rw [attempt_run] at caught
  cases run : step.act l (c.inner values) w.framed with
  | ok b v =>
    rw [run] at caught
    cases caught
    cases h
    exact ⟨_, rfl, rfl⟩
  | error e v =>
    rw [run] at caught
    cases caught
    cases h

theorem exists_of_asCall {step : Run α} {arguments registers : Nat} {a : α}
    (h : (asCall arguments registers step).act l c w = .ok a w') :
    ∃ v, step.act l (c.inner (2 + arguments + registers)) w.framed = .ok a v ∧
      w' = { v with realm := { v.realm with iterations := w.realm.iterations } } := by
  obtain ⟨⟨⟩, v, checked, h⟩ := exists_of_bind h
  cases eq_of_checkLimits checked
  exact exists_of_inFrame h

/-- A global function with a frame is called in a frame of its own. -/
theorem exists_of_callGlobal {n : Nat} {key : Name} {f : Native} {args : List Value} {registers : Nat} {v : Value}
    (has : HasMethod w.realm.objects Intrinsic.global.ref key f) (framed : f.registers? = some registers)
    (h : ((kernel (n + 1)).callGlobal key args).act l c w = .ok v w') :
    ∃ this u, ((kernel n).runNative f this args).act l (c.inner (2 + args.length + registers)) w.framed = .ok v u ∧
      w' = { u with realm := { u.realm with iterations := w.realm.iterations } } := by
  obtain ⟨g, isWritable, isEnumerable, isConfigurable, own, isMaker, shape⟩ := has
  rw [Kernel.callGlobal, bind_of_ok (global_run own)] at h
  change ((kernel n).callValue (.object g) .undefined args).act l c w = _ at h
  rw [Kernel.callValue, bind_of_ok (object_run g), shape] at h
  change ((kernel n).callNative f .undefined args).act l c w = _ at h
  rw [Kernel.callNative, framed] at h
  obtain ⟨u, ran, rfl⟩ := exists_of_asCall h
  obtain ⟨this, u', loose, ran⟩ := exists_of_bind ran
  cases loose
  exact ⟨_, u, ran, rfl⟩

end Pagewalk.Script
