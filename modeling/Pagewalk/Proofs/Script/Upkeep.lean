import Mathlib.Tactic.Common
import Pagewalk.Proofs.Script.Timers
import Pagewalk.Script.Heap

/-!
# What every script keeps

Whatever a script does is put together from a few kinds of steps. So what each of these keeps is kept from the begin
of a script to its end, however it ends. So what a script does to the timers of its realm is a history of deeds, and a
script reads the document of its own window as long as the watcher of the console leaves the active documents as they
are. Then it does not see the session that it runs in either.
-/

namespace Pagewalk.Script

variable {α β : Type} {l : Finding} {c : Context} {w : World}

/-- The world in which a step ends. -/
def finalWorld : EStateM.Result Abrupt World α → World
  | .ok _ w => w
  | .error _ w => w

/-! ### One step after another -/

namespace Act

variable {m : Act α} {w' : World}

theorem bind_of_ok {f : α → Act β} {a : α} (h : m l c w = .ok a w') : m.bind f l c w = f a l c w' := by
  change EStateM.bind (m l c) _ w = _
  rw [EStateM.bind, h]

theorem bind_of_error {f : α → Act β} {e : Abrupt} (h : m l c w = .error e w') : m.bind f l c w = .error e w' := by
  change EStateM.bind (m l c) _ w = _
  rw [EStateM.bind, h]

theorem tryCatch_of_ok {handle : Abrupt → Act α} {a : α} (h : m l c w = .ok a w') :
    m.tryCatch handle l c w = .ok a w' := by
  change EStateM.tryCatch (m l c) _ w = _
  rw [EStateM.tryCatch, h]

theorem tryCatch_of_error {handle : Abrupt → Act α} {e : Abrupt} (h : m l c w = .error e w') :
    m.tryCatch handle l c w = handle e l c w' := by
  change EStateM.tryCatch (m l c) _ w = _
  rw [EStateM.tryCatch, h]
  rfl

theorem tryCatch_congr {m' : Act α} {handle : Abrupt → Act α} (h : m l c w = m' l c w) :
    m.tryCatch handle l c w = m'.tryCatch handle l c w := by
  change EStateM.tryCatch (m l c) _ w = EStateM.tryCatch (m' l c) _ w
  rw [EStateM.tryCatch, h, EStateM.tryCatch]

end Act

/-- A change of the realm is made, or it is not allowed and breaks off. -/
theorem Finding.change_cases (l : Finding) (f : Realm → Realm) (c : Context) (w : World) :
    l.Allows w.realm (f w.realm) ∧ Act.change f l c w = .ok () { w with realm := f w.realm } ∨
      Act.change f l c w = .error .broken w := by
  cases l with
  | own => exact .inl ⟨trivial, rfl⟩
  | active => exact .inl ⟨trivial, rfl⟩
  | restricted allowed =>
    rw [Act.change]
    split
    next yes => exact .inl ⟨yes, rfl⟩
    next => exact .inr rfl

/-! ### Keeping -/

/-- What is kept by the changes of the realm that are allowed, by what is entered into records, by deeds done to timers
and by lines of the log is kept by every script. -/
theorem Stepwise.keeps {act : Act α} (step : Stepwise act) {R : World → World → Prop} (refl : ∀ w, R w w)
    (trans : ∀ {u v w}, R u v → R v w → R u w)
    (change : ∀ (f : Realm → Realm) w, (∀ m : Realm, m.Upholds (f m)) → l.Allows w.realm (f w.realm) →
      R w { w with realm := f w.realm })
    (enter : ∀ record e w, R w { w with realm := w.realm.enter record e })
    (timers : ∀ d w, R w { w with realm := { w.realm with timers := w.realm.timers.after d } })
    (record : ∀ r w, R w { w with session := c.observe r (w.session.note r) }) (w : World) :
    R w (finalWorld (act l c w)) := by
  -- Only the depth of calls in the context differs from step to step.
  suffices all : ∀ c', c'.observe = c.observe → ∀ w, R w (finalWorld (act l c' w)) from all c rfl w
  induction step with
  | pure a => exact fun _ _ w => refl w
  | throw e => exact fun _ _ w => refl w
  | context => exact fun _ _ w => refl w
  | realm => exact fun _ _ w => refl w
  | page? => exact fun _ _ w => by cases l <;> exact refl w
  | change f upholds =>
    intro c' _ w
    rcases l.change_cases f c' w with ⟨allowed, run⟩ | run <;> rw [run]
    · exact change f w upholds allowed
    · exact refl w
  | enter r e => exact fun _ _ w => enter r e w
  | timers d => exact fun _ _ w => timers d w
  | record r =>
    intro c' same w
    change R w { w with session := c'.observe r (w.session.note r) }
    rw [same]
    exact record r w
  | within g body ih => exact fun _ same w => ih _ (by exact same) w
  | @bind _ _ m f first next ih ihNext =>
    intro c' same w
    have begun := ih c' same w
    cases h : m l c' w with
    | ok a w' =>
      rw [h] at begun
      rw [Act.bind_of_ok h]
      exact trans begun (ihNext a c' same w')
    | error e w' =>
      rw [h] at begun
      rw [Act.bind_of_error h]
      exact begun
  | @tryCatch _ m handle body handler ih ihHandler =>
    intro c' same w
    have begun := ih c' same w
    cases h : m l c' w with
    | ok a w' =>
      rw [h] at begun
      rw [Act.tryCatch_of_ok h]
      exact begun
    | error e w' =>
      rw [h] at begun
      rw [Act.tryCatch_of_error h]
      exact trans begun (ihHandler e c' same w')

/-! ### Timers -/

/-- What a script does to the timers of its realm is a history of deeds. -/
theorem Run.exists_deeds (step : Run α) (l : Finding) (c : Context) (w : World) :
    ∃ ds, (finalWorld (step.act l c w)).realm.timers = w.realm.timers.afterAll ds := by
  refine step.stepwise.keeps (R := fun w w' => ∃ ds, w'.realm.timers = w.realm.timers.afterAll ds) (fun _ => ⟨[], rfl⟩)
    ?_ (fun f w upholds _ => ⟨[], (upholds w.realm).timers⟩) (fun _ _ _ => ⟨[], rfl⟩) (fun d w => ⟨[d], rfl⟩)
    (fun _ _ => ⟨[], rfl⟩) w
  rintro u v w ⟨ds, hds⟩ ⟨es, hes⟩
  exact ⟨ds ++ es, by rw [hes, hds, Timers.afterAll_append]⟩

theorem Run.exists_deeds_of_ok {step : Run α} {a : α} {w' : World} (h : step c w = .ok a w') :
    ∃ ds, w'.realm.timers = w.realm.timers.afterAll ds := by
  have deeds := step.exists_deeds .own c w
  rw [h] at deeds
  exact deeds

/-! ### Functions that settle evaluations -/

/-- Whatever a script does, what functions settle stays the same, and what new ones settle is new like them. -/
theorem Run.grows (step : Run α) (l : Finding) (c : Context) (w : World) :
    w.realm.Grows (finalWorld (step.act l c w)).realm :=
  step.stepwise.keeps (R := fun u v => u.realm.Grows v.realm) (fun _ => .refl _) .trans
    (fun _ w upholds _ => (upholds w.realm).toGrows) (fun r e w => (w.realm.upholds_enter r e).toGrows)
    (fun _ _ => .of_objects rfl) (fun _ _ => .refl _) w

theorem Run.grows_of_ok {step : Run α} {a : α} {w' : World} (h : step.act l c w = .ok a w') :
    w.realm.Grows w'.realm := by
  have grows := step.grows l c w
  rw [h] at grows
  exact grows

/-! ### Documents -/

/-- A script finds the document of its own window as the active one, and leaves the active documents as they are, if
the watcher of the console does so. -/
theorem Stepwise.reads_own {act : Act α} (step : Stepwise act)
    (watcher : ∀ r s, (c.observe r s).active = s.active) (own : w.session.active.head? = some c.page) :
    act .active c w = act .own c w ∧ (finalWorld (act .own c w)).session.active = w.session.active := by
  induction step generalizing c w with
  | pure a => exact ⟨rfl, rfl⟩
  | throw e => exact ⟨rfl, rfl⟩
  | context => exact ⟨rfl, rfl⟩
  | realm => exact ⟨rfl, rfl⟩
  | change f keeps => exact ⟨rfl, rfl⟩
  | enter record e => exact ⟨rfl, rfl⟩
  | timers d => exact ⟨rfl, rfl⟩
  | record r => exact ⟨rfl, watcher r _⟩
  | page? =>
    change EStateM.Result.ok w.session.active.head? w = .ok (some c.page) w ∧ _
    rw [own]
    exact ⟨rfl, rfl⟩
  | within g body ih => exact ih (c := { c with frames := (g c).frames, stack := (g c).stack, converting := _ }) watcher own
  | @bind _ _ m f first next ih ihNext =>
    obtain ⟨same, kept⟩ := ih watcher own
    cases h : m .own c w with
    | ok a w' =>
      rw [h] at same kept
      have kept : w'.session.active = w.session.active := kept
      obtain ⟨sameNext, keptNext⟩ := ihNext a watcher (w := w') (kept ▸ own)
      rw [Act.bind_of_ok h, Act.bind_of_ok same]
      exact ⟨sameNext, keptNext.trans kept⟩
    | error e w' =>
      rw [h] at same kept
      rw [Act.bind_of_error h, Act.bind_of_error same]
      exact ⟨rfl, kept⟩
  | @tryCatch _ m handle body handler ih ihHandler =>
    obtain ⟨same, kept⟩ := ih watcher own
    cases h : m .own c w with
    | ok a w' =>
      rw [h] at same kept
      rw [Act.tryCatch_of_ok h, Act.tryCatch_of_ok same]
      exact ⟨rfl, kept⟩
    | error e w' =>
      rw [h] at same kept
      have kept : w'.session.active = w.session.active := kept
      obtain ⟨sameNext, keptNext⟩ := ihHandler e watcher (w := w') (kept ▸ own)
      rw [Act.tryCatch_of_error h, Act.tryCatch_of_error same]
      exact ⟨sameNext, keptNext.trans kept⟩

/-! ### Sessions -/

/-- Two steps end in the same way and leave the same realm, in sessions that may differ. -/
inductive EndsAlike : (r r' : EStateM.Result Abrupt World α) → Prop
  | ok (a : α) (m : Realm) (s s' : Session) : EndsAlike (.ok a ⟨m, s⟩) (.ok a ⟨m, s'⟩)
  | error (e : Abrupt) (m : Realm) (s s' : Session) : EndsAlike (.error e ⟨m, s⟩) (.error e ⟨m, s'⟩)

theorem EndsAlike.realm {r r' : EStateM.Result Abrupt World α} (h : EndsAlike r r') :
    (finalWorld r').realm = (finalWorld r).realm := by
  cases h <;> rfl

theorem EndsAlike.exists_ok {a : α} {r : EStateM.Result Abrupt World α} (h : EndsAlike (.ok a w) r) :
    ∃ s, r = .ok a ⟨w.realm, s⟩ := by
  cases h
  exact ⟨_, rfl⟩

/-- A script that reads the document of its own window does not see the session around it. -/
theorem Stepwise.ignores_session {act : Act α} (step : Stepwise act) (c : Context) (m : Realm) (s s' : Session) :
    EndsAlike (act .own c ⟨m, s⟩) (act .own c ⟨m, s'⟩) := by
  induction step generalizing c m s s' with
  | pure a => exact .ok ..
  | throw e => exact .error ..
  | context => exact .ok ..
  | realm => exact .ok ..
  | change f keeps => exact .ok ..
  | enter record e => exact .ok ..
  | timers d => exact .ok ..
  | record r => exact .ok ..
  | page? => exact .ok ..
  | within g body ih => exact ih ..
  | @bind _ _ m' f first next ih ihNext =>
    have same := ih c m s s'
    generalize h : m' .own c ⟨m, s⟩ = r, h' : m' .own c ⟨m, s'⟩ = r' at same
    cases same with
    | ok a m₁ s₁ s₂ =>
      rw [Act.bind_of_ok h, Act.bind_of_ok h']
      exact ihNext a c m₁ s₁ s₂
    | error e m₁ s₁ s₂ =>
      rw [Act.bind_of_error h, Act.bind_of_error h']
      exact .error e m₁ s₁ s₂
  | @tryCatch _ m' handle body handler ih ihHandler =>
    have same := ih c m s s'
    generalize h : m' .own c ⟨m, s⟩ = r, h' : m' .own c ⟨m, s'⟩ = r' at same
    cases same with
    | ok a m₁ s₁ s₂ =>
      rw [Act.tryCatch_of_ok h, Act.tryCatch_of_ok h']
      exact .ok a m₁ s₁ s₂
    | error e m₁ s₁ s₂ =>
      rw [Act.tryCatch_of_error h, Act.tryCatch_of_error h']
      exact ihHandler e c m₁ s₁ s₂

end Pagewalk.Script
