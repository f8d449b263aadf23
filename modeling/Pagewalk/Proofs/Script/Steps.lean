import Pagewalk.Script.Setup

/-!
# Running steps

The answers of single steps of a script: looking a property up, calling a function in a frame of its own, and making
and changing objects. They are the same however the step is run, as long as the changes that it makes are allowed.
-/

namespace Pagewalk.Script

open Text

variable {α β : Type} {l : Finding} {c : Context} {w w' : World}

/-! ### Running steps -/

/-- The iterations of a function may be counted. -/
def Finding.AllowsFrames (l : Finding) : Prop := ∀ (m : Realm) (n : Nat), l.Allows m { m with iterations := n }

theorem Finding.allowsFrames_own : Finding.own.AllowsFrames := fun _ _ => trivial

theorem bind_of_ok {step : Run α} {a : α} (h : step.act l c w = .ok a w') (next : α → Run β) :
    (step >>= next).act l c w = (next a).act l c w' := by
  change EStateM.bind (step.act l c) (fun a => (next a).act l c) w = _
  rw [EStateM.bind, h]

theorem bind_of_error {step : Run α} {e : Abrupt} (h : step.act l c w = .error e w') (next : α → Run β) :
    (step >>= next).act l c w = .error e w' := by
  change EStateM.bind (step.act l c) (fun a => (next a).act l c) w = _
  rw [EStateM.bind, h]

theorem realm_run : realm.act l c w = .ok w.realm w := rfl

theorem modifyRealm_run (f : Realm → Realm) (upholds : ∀ m : Realm, m.Upholds (f m))
    (allowed : l.Allows w.realm (f w.realm)) :
    (modifyRealm f upholds).act l c w = .ok () { w with realm := f w.realm } := by
  cases l with
  | own => rfl
  | active => rfl
  | restricted _ => exact if_pos allowed

theorem read_run : (read : Run Context).act l c w = .ok c w := rfl

/-- The object there; where there is none, an empty one. -/
def objectAt (os : Array Obj) (r : Ref) : Obj := os[r]?.getD default

theorem object_run (r : Ref) : (object r).act l c w = .ok (objectAt w.realm.objects r) w := rfl

/-- The property that is found along the line of parents. -/
def lookUp (os : Array Obj) : Nat → Ref → Name → Option Property
  | 0, _, _ => none
  | n + 1, r, key =>
    match (objectAt os r).own? key with
    | some p => some p
    | none =>
      match (objectAt os r).parent with
      | none => none
      | some up => lookUp os n up key

theorem findFrom_run (n : Nat) (r : Ref) (key : Name) :
    (findFrom n r key).act l c w = .ok (lookUp w.realm.objects n r key) w := by
  induction n generalizing r with
  | zero => rfl
  | succ n ih =>
    rw [findFrom, bind_of_ok (object_run r), lookUp]
    cases (objectAt w.realm.objects r).own? key with
    | some p => rfl
    | none =>
      cases (objectAt w.realm.objects r).parent with
      | none => rfl
      | some up => exact ih up

theorem findProperty_run (r : Ref) (key : Name) :
    (findProperty r key).act l c w = .ok (lookUp w.realm.objects (w.realm.objects.size + 1) r key) w :=
  (bind_of_ok realm_run _).trans (findFrom_run _ r key)

section LookUp

variable {os : Array Obj} {r up top : Ref} {key : Name} {p : Property} {n : Nat}

theorem lookUp_own (h : (objectAt os r).own? key = some p) : lookUp os (n + 1) r key = some p := by
  rw [lookUp, h]

theorem lookUp_parent (h : (objectAt os r).own? key = none) (hp : (objectAt os r).parent = some up) :
    lookUp os (n + 1) r key = lookUp os n up key := by
  rw [lookUp, h, hp]

theorem lookUp_top (h : (objectAt os r).own? key = none) (hp : (objectAt os r).parent = none) :
    lookUp os (n + 1) r key = none := by
  rw [lookUp, h, hp]

end LookUp

section Global

variable {k : Kernel} {key : Name} {v : Value} {isWritable isEnumerable isConfigurable : Bool}

theorem global?_run (own : (objectAt w.realm.objects Intrinsic.global.ref).own? key =
    some (.data v isWritable isEnumerable isConfigurable)) : (k.global? key).act l c w = .ok (some v) w := by
  rw [Kernel.global?, bind_of_ok (findProperty_run _ _), lookUp_own own]
  rfl

theorem global_run (own : (objectAt w.realm.objects Intrinsic.global.ref).own? key =
    some (.data v isWritable isEnumerable isConfigurable)) : (k.global key).act l c w = .ok v w := by
  rw [Kernel.global, bind_of_ok (global?_run own)]
  rfl

end Global

/-! ### Objects that are new -/

section Objects

variable {os : Array Obj} {r s : Ref} {o : Obj} {key : Name}

theorem lt_size_of_own {p : Property} (h : (objectAt os r).own? key = some p) :
    r < os.size := by
  refine Nat.lt_of_not_le fun out => ?_
  have none : (default : Obj).own? key = none := Std.HashMap.getElem?_empty
  rw [objectAt, Array.getElem?_eq_none out, Option.getD_none, none] at h
  cases h

theorem objectAt_push_of_lt (h : r < os.size) : objectAt (os.push o) r = objectAt os r := by
  rw [objectAt, Array.getElem?_push, if_neg (Nat.ne_of_lt h)]
  rfl

theorem objectAt_push_size : objectAt (os.push o) os.size = o := by
  rw [objectAt, Array.getElem?_push_size]
  rfl

theorem objectAt_modify_ne {f : Obj → Obj} (h : r ≠ s) : objectAt (os.modify s f) r = objectAt os r := by
  rw [objectAt, Array.getElem?_modify, if_neg (Ne.symm h)]
  rfl

theorem objectAt_modify_self {f : Obj → Obj} (h : r < os.size) : objectAt (os.modify r f) r = f (objectAt os r) := by
  rw [objectAt, objectAt, Array.getElem?_modify, if_pos rfl, Array.getElem?_eq_getElem h]
  rfl

theorem parent_setProperty (o : Obj) (key : Name) (p : Property) : (o.setProperty key p).parent = o.parent := by
  rw [Obj.setProperty]
  split <;> rfl

theorem properties_setProperty (o : Obj) (key : Name) (p : Property) :
    (o.setProperty key p).properties = o.properties.insert key p := by
  rw [Obj.setProperty]
  split <;> rfl

theorem inherent_setProperty (o : Obj) (key key' : Name) (p : Property) :
    (o.setProperty key p).inherent? key' = o.inherent? key' := by
  rw [Obj.setProperty]
  split <;> rfl

/-- A property that is set is there, and the others are as they were. -/
theorem own_setProperty {key' : Name} (h : o.inherent? key' = none) (key : Name) (p : Property) :
    (o.setProperty key p).own? key' = if key = key' then some p else o.own? key' := by
  rw [Obj.own?, inherent_setProperty, h, properties_setProperty, Obj.own?, h]
  simp only [Std.HashMap.getElem?_insert, beq_iff_eq]

theorem own_setProperty_ne {key' : Name} (h : key ≠ key') (p : Property) :
    (o.setProperty key p).own? key' = o.own? key' := by
  rw [Obj.own?, inherent_setProperty, Obj.own?, properties_setProperty, Std.HashMap.getElem?_insert,
    if_neg (by simpa using h)]

theorem Obj.define_of_plain (h : o.shape = .plain) (key : Name) (p : Property) : o.define key p = o.setProperty key p := by
  unfold Obj.define
  rw [h]

/-- An object without a shape of its own, which takes new properties. -/
structure Obj.IsPlain (o : Obj) : Prop where
  shape : o.shape = .plain
  isOpen : o.isOpen = true

theorem Obj.isPlain_ofShape (parent : Option Ref) : (Obj.ofShape parent .plain).IsPlain := ⟨rfl, rfl⟩

namespace Obj.IsPlain

variable (h : o.IsPlain)

include h

theorem inherent_eq (key : Name) : o.inherent? key = none := by
  rw [Obj.inherent?, h.shape]

theorem define_eq (key : Name) (p : Property) : o.define key p = o.setProperty key p :=
  Obj.define_of_plain h.shape key p

theorem define (key : Name) (p : Property) : (o.define key p).IsPlain := by
  rw [h.define_eq, Obj.setProperty]
  split <;> exact ⟨h.shape, h.isOpen⟩

theorem parent_define (key : Name) (p : Property) : (o.define key p).parent = o.parent := by
  rw [h.define_eq, parent_setProperty]

theorem own_define (key key' : Name) (p : Property) :
    (o.define key p).own? key' = if key = key' then some p else o.own? key' := by
  rw [h.define_eq, own_setProperty (h.inherent_eq key')]

theorem takes (key : Name) : o.takes key = true := by
  rw [Obj.takes, h.shape, h.isOpen]
  cases Number.index? key <;> rfl

end Obj.IsPlain

theorem own_ofShape_plain (parent : Option Ref) (key : Name) : (Obj.ofShape parent .plain).own? key = none := by
  rw [Obj.own?, (Obj.isPlain_ofShape parent).inherent_eq]
  exact Std.HashMap.getElem?_empty

/-- A property that a plain object has is written, if it can be. -/
theorem put_own_run {k : Kernel} {v before : Value} {e d : Bool} (plain : (objectAt w.realm.objects r).shape = .plain)
    (own : (objectAt w.realm.objects r).own? key = some (.data before true e d))
    (allowed : l.Allows w.realm
      { w.realm with objects := w.realm.objects.modify r (·.define key (.data v true e d)) }) :
    (k.putOf (.object r) key v false).act l c w = .ok ()
      { w with realm := { w.realm with objects := w.realm.objects.modify r (·.define key (.data v true e d)) } } := by
  have noItems : (objectAt w.realm.objects r).items? = none := by rw [Obj.items?, plain]
  have link : (objectAt w.realm.objects r).link? key = none := by rw [Obj.link?, plain]
  rw [Kernel.putOf, Kernel.put, bind_of_ok (object_run r), own]
  simp only [Bool.not_true, Bool.false_eq_true, if_false, noItems, Option.isSome_none, Bool.and_false]
  rw [defineProperty, bind_of_ok (object_run r), link]
  exact modifyRealm_run _ _ allowed

/-- A property that an object has neither itself nor from its parents is set on it, if it takes it. -/
theorem put_new_run {k : Kernel} {v : Value} (own : (objectAt w.realm.objects r).own? key = none)
    (free : lookUp w.realm.objects (w.realm.objects.size + 1) r key = none)
    (takes : (objectAt w.realm.objects r).takes key = true) (link : (objectAt w.realm.objects r).link? key = none)
    (allowed : l.Allows w.realm
      { w.realm with objects := w.realm.objects.modify r (·.define key (.plain v)) }) :
    (k.put r key v false).act l c w =
      .ok () { w with realm := { w.realm with objects := w.realm.objects.modify r (·.define key (.plain v)) } } := by
  rw [Kernel.put, bind_of_ok (object_run r), own]
  refine (bind_of_ok (findProperty_run r key) _).trans ?_
  rw [free]
  simp only [takes, if_true]
  rw [defineProperty, bind_of_ok (object_run r), link]
  exact modifyRealm_run _ _ allowed

/-- A new property of a plain object is set on it. -/
theorem put_run {k : Kernel} {v : Value} (plain : (objectAt w.realm.objects r).IsPlain)
    (own : (objectAt w.realm.objects r).own? key = none)
    (free : lookUp w.realm.objects (w.realm.objects.size + 1) r key = none)
    (allowed : l.Allows w.realm
      { w.realm with objects := w.realm.objects.modify r (·.define key (.plain v)) }) :
    (k.putOf (.object r) key v false).act l c w =
      .ok () { w with realm := { w.realm with objects := w.realm.objects.modify r (·.define key (.plain v)) } } := by
  have link : (objectAt w.realm.objects r).link? key = none := by
    rw [Obj.link?, plain.shape]
  rw [Kernel.putOf]
  exact put_new_run own free (plain.takes key) link allowed

end Objects

/-! ### Frames -/

/-- There is room for so many functions that stand in one another and so many values. -/
structure Context.Room (c : Context) (frames values : Nat) : Prop where
  frames : c.frames + frames ≤ c.config.recursionLimit
  values : c.stack + values ≤ c.config.stackLimit

/-- The context of a call with so many values. -/
def Context.inner (c : Context) (values : Nat) : Context := { c with frames := c.frames + 1, stack := c.stack + values }

theorem Context.Room.inner {frames values frames' values' used : Nat} (room : c.Room frames' values')
    (hf : frames + 1 ≤ frames') (hv : values + used ≤ values') : (c.inner used).Room frames values := by
  obtain ⟨roomFrames, roomValues⟩ := room
  constructor
  · change c.frames + 1 + frames ≤ c.config.recursionLimit
    omega
  · change c.stack + used + values ≤ c.config.stackLimit
    omega

/-- The context of a step for which so many values are kept. -/
abbrev Context.holding (c : Context) (values : Nat) : Context := { c with stack := c.stack + values }

theorem Context.Room.holding {frames values values' kept : Nat} (room : c.Room frames values')
    (h : values + kept = values') : (c.holding kept).Room frames values := by
  refine ⟨room.frames, Nat.le_trans (Nat.le_of_eq ?_) room.values⟩
  rw [← h, Nat.add_comm values, ← Nat.add_assoc]

/-- The world in which a call counts its iterations apart. -/
abbrev World.framed (w : World) : World := { w with realm := { w.realm with iterations := 0 } }

theorem checkLimits_run {values : Nat} (room : c.Room 1 (values + 1)) : (checkLimits values).act l c w = .ok () w := by
  obtain ⟨hf, hv⟩ := room
  rw [checkLimits, bind_of_ok read_run, if_neg (by omega), if_neg (by omega)]
  rfl

/-- What breaks off a step in a frame of its own is handed on after the frame. -/
theorem attempt_run (step : Run α) (values : Nat) :
    (tryCatch (Except.ok <$> withReader (fun c => { c with frames := c.frames + 1, stack := c.stack + values }) step)
      fun e => pure (.error e) : Run (Except Abrupt α)).act l c w =
        match step.act l (c.inner values) w with
        | .ok a v => .ok (.ok a) v
        | .error e v => .ok (.error e) v := by
  change EStateM.tryCatch (EStateM.map Except.ok (step.act l (c.inner values))) _ _ = _
  delta EStateM.tryCatch EStateM.map
  cases step.act l (c.inner values) w <;> rfl

/-- A step in a frame of its own ends as it would, and its iterations are not counted any more. -/
theorem inFrame_act (step : Run α) (values : Nat) (frames : l.AllowsFrames) :
    (inFrame values step).act l c w =
      match step.act l (c.inner values) w.framed with
      | .ok a v => .ok a { v with realm := { v.realm with iterations := w.realm.iterations } }
      | .error e v => .error e { v with realm := { v.realm with iterations := w.realm.iterations } } := by
  rw [inFrame, bind_of_ok realm_run, bind_of_ok (modifyRealm_run _ _ (frames _ _))]
  have attempt := attempt_run (l := l) (c := c) (w := w.framed) step values
  cases ended : step.act l (c.inner values) w.framed with
  | ok a v =>
    rw [ended] at attempt
    exact (bind_of_ok attempt _).trans ((bind_of_ok (modifyRealm_run _ _ (frames _ _)) _).trans rfl)
  | error e v =>
    rw [ended] at attempt
    exact (bind_of_ok attempt _).trans ((bind_of_ok (modifyRealm_run _ _ (frames _ _)) _).trans rfl)

theorem inFrame_run {step : Run α} {values : Nat} {a : α}
    (h : step.act l (c.inner values) w.framed = .ok a w') (frames : l.AllowsFrames) :
    (inFrame values step).act l c w =
      .ok a { w' with realm := { w'.realm with iterations := w.realm.iterations } } := by
  rw [inFrame_act step values frames, h]

theorem asCall_run {step : Run α} {a : α} (arguments registers : Nat) (room : c.Room 1 (2 + arguments + 1))
    (h : step.act l (c.inner (2 + arguments + registers)) w.framed = .ok a w')
    (frames : l.AllowsFrames) :
    (asCall arguments registers step).act l c w =
      .ok a { w' with realm := { w'.realm with iterations := w.realm.iterations } } := by
  rw [asCall, bind_of_ok (checkLimits_run room)]
  exact inFrame_run h frames

/-- What is called counts its iterations apart, so its caller has counted as many as before. -/
theorem iterations_of_asCall {step : Run α} {a : α} {arguments registers : Nat} (room : c.Room 1 (2 + arguments + 1))
    (h : asCall arguments registers step c w = .ok a w') : w'.realm.iterations = w.realm.iterations := by
  rw [asCall, bind_of_ok (checkLimits_run room), inFrame_act (l := .own) _ _ Finding.allowsFrames_own] at h
  split at h
  · cases h
    rfl
  · cases h

theorem countIteration_run (h : w.realm.iterations ≤ c.config.loopLimit) :
    countIteration c w = .ok () { w with realm := { w.realm with iterations := w.realm.iterations + 1 } } := by
  rw [countIteration, bind_of_ok read_run, bind_of_ok realm_run, if_neg (Nat.not_lt_of_le h)]
  exact modifyRealm_run (l := .own) _ _ trivial

theorem Context.Room.mono {frames values frames' values' : Nat} (room : c.Room frames values) (hf : frames' ≤ frames)
    (hv : values' ≤ values) : c.Room frames' values' :=
  ⟨Nat.le_trans (Nat.add_le_add_left hf _) room.frames, Nat.le_trans (Nat.add_le_add_left hv _) room.values⟩

end Pagewalk.Script
