import Pagewalk.Script.Record

/-!
# Steps of scripts

A step of a script is put together from a few kinds of steps: it reads and changes the realm, does something to the
timers, writes a record, and reads the document. It carries how it is put together, so that what each kind of step
keeps is kept by every script.

A script cannot hold on to the document of its window: it finds it as the one that became active last. That this is
its own is a property of how evaluations begin and end, and not of the steps; to state it, a step can also be run so
that it reads the document of its own window. To state what depends on scripts leaving something alone, a step can be
run so that it breaks off where it would touch that.
-/

namespace Pagewalk.Script

/-- Where a script finds its document, and which changes of its realm it may make. -/
inductive Finding where
  /-- The document of its window. -/
  | own
  /-- The document that became active last. -/
  | active
  /-- The document of its window; a change of the realm that is not allowed breaks the script off. -/
  | restricted (allowed : (before after : Realm) → Bool)

/-- A change of the realm is allowed. -/
def Finding.Allows : Finding → (before after : Realm) → Prop
  | .restricted allowed, m, m' => allowed m m' = true
  | _, _, _ => True

/-- What a step does in a context to a world, and how it ends. -/
abbrev Act (α : Type) := Finding → Context → EStateM Abrupt World α

namespace Act

variable {α β : Type}

/-- Answers a value. -/
@[always_inline, inline]
def pure (a : α) : Act α := fun _ _ w => .ok a w

/-- One step after another. -/
@[always_inline, inline]
def bind (m : Act α) (f : α → Act β) : Act β := fun l c => EStateM.bind (m l c) fun a => f a l c

/-- Breaks off. -/
@[always_inline, inline]
def throw (e : Abrupt) : Act α := fun _ _ w => .error e w

/-- Goes on where a step breaks off; what it changed stays. -/
@[always_inline, inline]
def tryCatch (m : Act α) (handle : Abrupt → Act α) : Act α := fun l c =>
  EStateM.tryCatch (m l c) fun e => handle e l c

/-- Reads the context. -/
@[always_inline, inline]
def context : Act Context := fun _ c w => .ok c w

/-- Runs a step deeper or less deep; its window and the watcher of the console are the same. -/
@[always_inline, inline]
def within (g : Context → Context) (m : Act α) : Act α := fun l c w =>
  m l { c with frames := (g c).frames, stack := (g c).stack, converting := (g c).converting } w

/-- Reads the realm. -/
@[always_inline, inline]
def realm : Act Realm := fun _ _ w => .ok w.realm w

/-- Changes the realm. -/
@[always_inline, inline]
def change (f : Realm → Realm) : Act Unit := fun l _ w =>
  match l with
  | .restricted allowed =>
    let m := f w.realm
    if allowed w.realm m then .ok () { w with realm := m } else .error .broken w
  | _ => .ok () { w with realm := f w.realm }

/-- Enters something into a record. -/
@[always_inline, inline]
def enter (record : Ref) (e : Entry) : Act Unit := fun _ _ w => .ok () { w with realm := w.realm.enter record e }

/-- Does something to the timers of the realm. -/
@[always_inline, inline]
def timers (d : Timers.Deed Float Task) : Act Unit := fun _ _ w =>
  .ok () { w with realm := { w.realm with timers := w.realm.timers.after d } }

/-- Writes a record to the log, and lets the watcher act. -/
@[always_inline, inline]
def record (r : Log.Record) : Act Unit := fun _ c w =>
  .ok () { w with session := c.observe r (w.session.note r) }

/-- The document, if any is found. -/
@[always_inline, inline]
def page? : Act (Option NumberedDocument) := fun l c w =>
  match l with
  | .active => .ok w.session.active.head? w
  | _ => .ok (some c.page) w

end Act

/-- What a script does is put together from these steps. -/
inductive Stepwise : {α : Type} → Act α → Prop
  | pure {α : Type} (a : α) : Stepwise (.pure a)
  | bind {α β : Type} {m : Act α} {f : α → Act β} (first : Stepwise m) (next : ∀ a, Stepwise (f a)) :
    Stepwise (m.bind f)
  | throw {α : Type} (e : Abrupt) : Stepwise (Act.throw e : Act α)
  | tryCatch {α : Type} {m : Act α} {handle : Abrupt → Act α} (body : Stepwise m) (handler : ∀ e, Stepwise (handle e)) :
    Stepwise (m.tryCatch handle)
  | context : Stepwise .context
  | within {α : Type} (g : Context → Context) {m : Act α} (body : Stepwise m) : Stepwise (m.within g)
  | realm : Stepwise .realm
  | change (f : Realm → Realm) (upholds : ∀ m : Realm, m.Upholds (f m)) : Stepwise (.change f)
  | enter (record : Ref) (e : Entry) : Stepwise (.enter record e)
  | timers (d : Timers.Deed Float Task) : Stepwise (.timers d)
  | record (r : Log.Record) : Stepwise (.record r)
  | page? : Stepwise .page?

/-- A step of a script. -/
structure Run (α : Type) where
  act : Act α
  stepwise : Stepwise act

namespace Run

variable {α : Type}

/-- A step as it runs when it reads the document of its own window. -/
instance : CoeFun (Run α) fun _ => Context → EStateM Abrupt World α := ⟨fun m => m.act .own⟩

@[always_inline]
instance : Monad Run where
  pure a := ⟨.pure a, .pure a⟩
  bind m f := ⟨m.act.bind fun a => (f a).act, .bind m.stepwise fun a => (f a).stepwise⟩

@[always_inline]
instance : MonadExceptOf Abrupt Run where
  throw e := ⟨.throw e, .throw e⟩
  tryCatch m handle := ⟨m.act.tryCatch fun e => (handle e).act, .tryCatch m.stepwise fun e => (handle e).stepwise⟩

@[always_inline]
instance : MonadReaderOf Context Run := ⟨⟨.context, .context⟩⟩

@[always_inline]
instance : MonadWithReaderOf Context Run := ⟨fun g m => ⟨m.act.within g, .within g m.stepwise⟩⟩

theorem ext {m m' : Run α} (h : m.act = m'.act) : m = m' := by
  cases m
  cases m'
  cases h
  rfl

theorem id_map (m : Run α) : id <$> m = m := by
  refine ext (funext fun l => funext fun c => funext fun w => ?_)
  change EStateM.bind (m.act l c) _ w = _
  rw [EStateM.bind]
  cases m.act l c w <;> rfl

theorem bind_assoc {β γ : Type} (m : Run α) (f : α → Run β) (g : β → Run γ) :
    m >>= f >>= g = m >>= fun a => f a >>= g := by
  refine ext (funext fun l => funext fun c => funext fun w => ?_)
  change EStateM.bind (EStateM.bind (m.act l c) _) _ w = EStateM.bind (m.act l c) _ w
  rw [EStateM.bind, EStateM.bind, EStateM.bind]
  cases m.act l c w <;> rfl

instance : LawfulMonad Run := LawfulMonad.mk' Run id_map (fun _ _ => rfl) bind_assoc

end Run

end Pagewalk.Script
