import Pagewalk.Proofs.Document.Attributes
import Pagewalk.Proofs.Script.Sparing

/-!
# Attributes that scripts read

A script is told the names and values of the attributes of an element in turn: it keeps the items at even places for the
names, and takes the value of each from the place behind it. To have an attribute is to be told a value for its name or
for its name in small letters. So a script agrees with its own list where a program does, and it fails where a program
fails: an attribute that was moved into a namespace is among the names, but the element does not have it.
-/

namespace Pagewalk

/-! ### What the document tells by number -/

namespace NumberedDocument

variable {d : Document} {i : Nat} {e : Element}

theorem attributes_of_element (he : d.numbered.element i = .ok e) : d.numbered.attributes (some i) = .ok e.attributes := by
  rw [attributes, he]
  rfl

theorem attribute?_of_element (he : d.numbered.element i = .ok e) (name : String) :
    d.numbered.attribute? (some i) name = .ok ((e.sought? name).map (·.value)) := by
  rw [attribute?, he, ← Element.attribute?_or_lower]
  rfl

end NumberedDocument

namespace Script

open Text

variable {c : Context} {w : World}

/-! ### Names and values in turn -/

section InTurn

variable {entries : List (String × String)}

/-- Names and values in turn, as the document tells them. -/
def inTurn (entries : List (String × String)) : List Value := entries.flatMap fun (name, value) => [.string name, .string value]

theorem inTurn_cons (entry : String × String) (entries : List (String × String)) :
    inTurn (entry :: entries) = .string entry.1 :: .string entry.2 :: inTurn entries := rfl

theorem length_inTurn (entries : List (String × String)) : (inTurn entries).length = 2 * entries.length := by
  induction entries with
  | nil => rfl
  | cons entry entries ih =>
    rw [inTurn_cons, List.length_cons, List.length_cons, List.length_cons, ih]
    omega

/-- The names stand at the even places, and each value behind its name. -/
theorem getElem?_inTurn (entries : List (String × String)) (j : Nat) :
    (inTurn entries)[2 * j]? = entries[j]?.map (fun entry => .string entry.1) ∧
      (inTurn entries)[2 * j + 1]? = entries[j]?.map fun entry => .string entry.2 := by
  induction entries generalizing j with
  | nil => exact ⟨rfl, rfl⟩
  | cons entry entries ih =>
    rw [inTurn_cons]
    cases j with
    | zero => exact ⟨rfl, rfl⟩
    | succ j => exact ih j

/-- What stands at the even places are the names. -/
theorem filterMap_even (entries : List (String × String)) :
    ((List.range (inTurn entries).length).filterMap fun j => if j % 2 == 0 then (inTurn entries)[j]? else none) =
      entries.map fun entry => .string entry.1 := by
  have pairs (n : Nat) : ((List.range (2 * n)).filterMap fun j => if j % 2 == 0 then (inTurn entries)[j]? else none) =
      (List.range n).filterMap fun j => (inTurn entries)[2 * j]? := by
    induction n with
    | zero => rfl
    | succ n ih =>
      have even : 2 * n % 2 = 0 := by omega
      have odd : (2 * n + 1) % 2 = 1 := by omega
      rw [show 2 * (n + 1) = 2 * n + 1 + 1 from rfl, List.range_succ, List.range_succ, List.filterMap_append,
        List.filterMap_append, ih, List.range_succ, List.filterMap_append, List.append_assoc]
      simp only [List.filterMap_cons, List.filterMap_nil, even, odd, beq_self_eq_true, if_true]
      cases (inTurn entries)[2 * n]? <;> rfl
  rw [length_inTurn, pairs]
  calc ((List.range entries.length).filterMap fun j => (inTurn entries)[2 * j]?)
      = (List.range entries.length).filterMap fun j => entries[j]?.bind fun entry => some (.string entry.1) :=
        List.filterMap_congr fun j _ => (getElem?_inTurn entries j).1.trans (Option.map_eq_bind ..)
    _ = entries.map fun entry => .string entry.1 := by
        rw [filterMap_range_getElem]
        exact congrFun List.filterMap_eq_map entries

end InTurn

/-! ### Arithmetic of places -/

section Places

variable {k : Kernel} {j : Nat}

theorem isEven_run (small : j < 2 ^ 53) :
    k.binary .remainder (.nat j) (.number 2.0) c w = .ok (.nat (j % 2)) w := by
  have rest : Number.remainder j.toFloat 2.0 = (j % 2).toFloat := by
    rw [show (2.0 : Float) = Nat.toFloat 2 by decide +kernel]
    exact Number.remainder_toFloat small (by decide) (by decide)
  exact congrArg (fun x => EStateM.Result.ok (Value.number x) w) rest

theorem twice_run (small : 2 * j < 2 ^ 53) :
    k.binary .multiply (.nat j) (.number 2.0) c w = .ok (.nat (2 * j)) w := by
  have twice : j.toFloat * 2.0 = (2 * j).toFloat := by
    rw [show (2.0 : Float) = Nat.toFloat 2 by decide +kernel, Nat.mul_comm]
    exact Number.toFloat_mul (by omega) (by decide) (by omega)
  exact congrArg (fun x => EStateM.Result.ok (Value.number x) w) twice

theorem next_run (small : j + 1 < 2 ^ 53) : k.binary .add (.nat j) (.number 1.0) c w = .ok (.nat (j + 1)) w := by
  have sum : j.toFloat + 1.0 = (j + 1).toFloat := by
    rw [show (1.0 : Float) = Nat.toFloat 1 by decide +kernel]
    exact Number.toFloat_add small
  exact congrArg (fun x => EStateM.Result.ok (Value.number x) w) sum

end Places

/-! ### Entries -/

/-- A value is an object that has a name and a value as an entry of a list of attributes does. -/
def IsEntry (entry : String × String) (v : Value) (os : Array Obj) : Prop :=
  ∃ r, v = .object r ∧ r ≠ Intrinsic.cache.ref ∧
    (objectAt os r).own? nameKey = some (.plain (.string entry.1)) ∧
    (objectAt os r).own? "value" = some (.plain (.string entry.2))

theorem IsEntry.later {m m' : Realm} {entry : String × String} {v : Value} (h : IsEntry entry v m.objects)
    (l : m.Later m') : IsEntry entry v m'.objects := by
  obtain ⟨r, rfl, other, name, value⟩ := h
  have same := l.same (lt_size_of_own name) other
  exact ⟨r, rfl, other, same ▸ name, same ▸ value⟩

section Entries

variable {d : Document} {n i j : Nat} {k : Kernel} {r s g : Ref} {e : Element} {entries : List (String × String)}

theorem Obj.IsPlain.defineProperty_run {key : Name} {p : Property} (plain : (objectAt w.realm.objects r).IsPlain) :
    defineProperty r key p c w =
      .ok () { w with realm := { w.realm with objects := w.realm.objects.modify r (·.define key p) } } := by
  have link : (objectAt w.realm.objects r).link? key = none := by
    rw [Obj.link?, plain.shape]
  rw [defineProperty, bind_of_ok (object_run r), link]
  exact modifyRealm_run _ _ trivial

/-- A property that is defined on the last object leaves the others as they are. -/
theorem define_last {os : Array Obj} {o : Obj} (key : Name) (p : Property) (size : os.size = r + 1)
    (last : objectAt os r = o) :
    let os' := os.modify r (·.define key p)
    os'.size = r + 1 ∧ objectAt os' r = o.define key p ∧ ∀ t < r, objectAt os' t = objectAt os t :=
  ⟨Array.size_modify.trans size, by rw [objectAt_modify_self (size ▸ Nat.lt_succ_self r), last],
    fun _ ht => objectAt_modify_ne (Nat.ne_of_lt ht)⟩

/-- The name at a place among names and values comes with the value behind it. -/
theorem Yields.entryAt {entry : String × String} (I : w.realm.Intact)
    (h : IsArray w.realm.objects s (inTurn entries)) (few : 2 * entries.length ≤ 4294967295)
    (hj : entries[j]? = some entry) :
    Yields (k.entryAt (.object s) (.string entry.1) (.nat j)) c w (IsEntry entry) := by
  let r := w.realm.objects.size
  let name := Property.plain (.string entry.1)
  let value := Property.plain (.string entry.2)
  let plain := Obj.isPlain_ofShape (some Intrinsic.objects.ref)
  let os₁ := w.realm.objects.push (.ofShape (some Intrinsic.objects.ref) .plain)
  let os₂ := os₁.modify r (·.define nameKey name)
  let os₃ := os₂.modify r (·.define "value" value)
  have lt : j < entries.length := (List.getElem?_eq_some_iff.mp hj).1
  have at₁ : objectAt os₁ r = .ofShape (some Intrinsic.objects.ref) .plain := objectAt_push_size
  obtain ⟨size₂, at₂, kept₂⟩ := define_last (r := r) nameKey name (Array.size_push _) at₁
  obtain ⟨size₃, at₃, kept₃⟩ := define_last "value" value size₂ at₂
  have same₂ (t : Ref) (ht : t < r) : objectAt os₂ t = objectAt w.realm.objects t :=
    (kept₂ t ht).trans (objectAt_push_of_lt ht)
  have same₃ (t : Ref) (ht : t < r) : objectAt os₃ t = objectAt w.realm.objects t := (kept₃ t ht).trans (same₂ t ht)
  let w₁ : World := { w with realm := { w.realm with objects := os₁ } }
  let w₂ : World := { w with realm := { w.realm with objects := os₂ } }
  let w₃ : World := { w with realm := { w.realm with objects := os₃ } }
  have made : makeObject c w = .ok r w₁ := allocate_run (l := .own) _ _ trivial
  have named : defineProperty r nameKey name c w₁ = .ok () w₂ :=
    Obj.IsPlain.defineProperty_run (w := w₁) (at₁.symm ▸ plain)
  have l₂ : w.realm.Later w₂.realm := .of_objects (size₂ ▸ Nat.le_succ r) same₂
  have valued : k.readIndex (.object s) (.nat (2 * j + 1)) c w₂ = .ok (.string entry.2) w₂ :=
    (h.later l₂).readIndex_run (by omega) (by rw [(getElem?_inTurn entries j).2, hj]; rfl)
  have defined : defineProperty r "value" value c w₂ = .ok () w₃ :=
    Obj.IsPlain.defineProperty_run (w := w₂) (at₂.symm ▸ plain.define _ _)
  -- The entry is new, so it is not the array that keeps wrappers.
  have cache : Intrinsic.cache.ref < r := Nat.lt_of_lt_of_le (by decide) I.size
  refine ⟨.object r, w₃, ?_, .of_objects (size₃ ▸ Nat.le_succ r) same₃, r, rfl,
    Nat.ne_of_gt cache, ?_, ?_⟩
  · rw [Kernel.entryAt]
    refine (bind_of_ok made _).trans ?_
    refine (bind_of_ok named _).trans ?_
    refine (bind_of_ok (twice_run (k := k) (c := c) (w := w₂) (j := j) (by omega)) _).trans ?_
    refine (bind_of_ok (next_run (k := k) (c := c) (w := w₂) (by omega)) _).trans ?_
    refine (bind_of_ok valued _).trans ?_
    exact (bind_of_ok defined _).trans rfl
  · rw [at₃, (plain.define _ _).own_define, if_neg (by decide), plain.own_define, if_pos rfl]
  · rw [at₃, (plain.define _ _).own_define, if_pos rfl]

/-- The function that makes entries makes the one of a name and its place. -/
theorem Yields.applyEntry {entry : String × String} (I : w.realm.Intact)
    (h : IsArray w.realm.objects s (inTurn entries)) (few : 2 * entries.length ≤ 4294967295)
    (hj : entries[j]? = some entry) (hg : IsFunction w.realm.objects g (.node (.entry (.object s)))) (more : List Value)
    (room : c.Room 1 (5 + more.length)) :
    Yields ((kernel (n + 1)).apply (.object g) .undefined (.string entry.1 :: .nat j :: more)) c w (IsEntry entry) := by
  refine .apply 2 (.object Intrinsic.global.ref) hg rfl (fun _ => rfl)
    (room.mono (by omega) (by rw [List.length_cons, List.length_cons]; omega)) ?_
  exact .entryAt I.framed h few hj

/-- The function that tells the places of names tells the even places. -/
theorem Yields.applyIsPlaceOfName (small : j < 2 ^ 53) (hg : IsFunction w.realm.objects g (.node .isPlaceOfName))
    (item : Value) (more : List Value) (room : c.Room 1 (5 + more.length)) :
    Yields ((kernel (n + 1)).apply (.object g) .undefined (item :: .nat j :: more)) c w
      fun b _ => b = .bool (j % 2 == 0) := by
  refine .apply 2 (.object Intrinsic.global.ref) hg rfl (fun _ => rfl)
    (room.mono (by omega) (by rw [List.length_cons, List.length_cons]; omega)) ?_
  refine .of_bind (isEven_run small) (.of_ok rfl ?_)
  have zero : (0.0 : Float) = Nat.toFloat 0 := by decide +kernel
  have same : (Value.nat (j % 2)).strictEq (.number 0.0) = ((j % 2).toFloat == Nat.toFloat 0) :=
    congrArg (fun x : Float => (j % 2).toFloat == x) zero
  rw [same, Number.toFloat_beq (by omega) (by decide)]

/-- The function that gives the names of entries gives the name of an entry. -/
theorem Yields.applyAttributeName {entry : String × String} {v : Value} (h : IsEntry entry v w.realm.objects)
    (hg : IsFunction w.realm.objects g (.node .attributeName)) (more : List Value) (room : c.Room 1 (4 + more.length)) :
    Yields ((kernel (n + 1)).apply (.object g) .undefined (v :: more)) c w fun name _ => name = .string entry.1 := by
  obtain ⟨r, rfl, -, name, -⟩ := h
  refine .apply 1 (.object Intrinsic.global.ref) hg rfl (fun _ => rfl)
    (room.mono (by omega) (by rw [List.length_cons]; omega)) ?_
  exact .of_ok (propertyOf_own name) rfl

end Entries

/-! ### What an element tells of its attributes -/

section Told

variable {d : Document} {n i : Nat} {k : Kernel} {r : Ref} {e : Element} (page : c.page = d.numbered) (small : i < 2 ^ 53)
  (he : d.numbered.element i = .ok e)

include page small he

theorem attributes_run : Bridge.run k .attributes [.nat i] c w = makeArray (inTurn e.attributes) c w := by
  change (do makeArray ((← ofNodeFault (c.page.attributes (nodeNumber? i.toFloat))).flatMap
    fun (name, value) => [.string name, .string value]) : Run Value) c w = _
  rw [page, nodeNumber_toFloat small, NumberedDocument.attributes_of_element he]
  rfl

theorem attribute_run (s : CodeUnits) : Bridge.run k .attribute (.nat i :: [.text s]) c w =
    .ok (textOrNull ((e.sought? s.toText).map (·.value))) w := by
  change (do return textOrNull (← ofNodeFault (c.page.attribute? (nodeNumber? i.toFloat) s.toText)) : Run Value) c w = _
  rw [page, nodeNumber_toFloat small, NumberedDocument.attribute?_of_element he]
  rfl

/-- The attributes of an element come as an array of entries. -/
theorem Yields.attributes (few : 2 * e.attributes.length ≤ 4294967295) (I : w.realm.Intact)
    (hr : IsWrapper w.realm.objects r (.nat i)) (room : c.Room 3 20) :
    Yields ((kernel (n + 3)).propertyOf (.object r) "attributes") c w (IsArrayOf IsEntry e.attributes) := by
  refine .getter (q := ("attributes", .attributes)) (by decide) I hr (room.mono (by omega) (by omega)) ?_
  have room' : (c.inner 2).Room 2 18 := room.inner (by omega) (by omega)
  have asked := askOf_run (n := n + 1) (c := c.inner 2) [] I.framed hr (q := ("attributes", 1, .attributes))
    (by decide) (room'.mono (by omega) (by omega))
  rw [Kernel.nodeProperty]
  refine (Yields.of_run_eq (asked.trans (attributes_run (c := c.inner 2) page small he))
    (.makeArray I.framed _)).bind fun flat w₁ l₁ hflat => ?_
  obtain ⟨s, rfl, hs⟩ := hflat
  have I₁ := I.framed.later l₁
  refine (Yields.makeNative (f := .node .isPlaceOfName) rfl "" 2 fun _ => rfl).bind fun isName w₂ l₂ hisName => ?_
  obtain ⟨g, rfl, hg⟩ := hisName
  have I₂ := I₁.later l₂
  have length : (inTurn e.attributes).length < 2 ^ 53 := by rw [length_inTurn]; omega
  refine (Yields.invokeArray (q := ("filter", 1, .filter)) (by decide) I₂ (hs.later l₂) (room'.mono (by omega) (by omega))
    (.filterArray (p := fun j => j % 2 == 0) I₂ (hs.later l₂) hg fun j v hv w₃ l₃ =>
      .applyIsPlaceOfName (Nat.lt_trans (List.getElem?_eq_some_iff.mp hv).1 length) (hg.later l₃) v [.object s]
        (room'.mono (by omega) (show 6 ≤ 18 by decide)))).bind fun names w₃ l₃ hnames => ?_
  obtain ⟨t, rfl, ht⟩ := hnames
  rw [filterMap_even] at ht
  have I₃ := I₂.later l₃
  refine (Yields.makeNative (f := .node (.entry (.object s))) rfl "" 2 fun _ => rfl).bind fun entry w₄ l₄ hentry => ?_
  obtain ⟨g', rfl, hg'⟩ := hentry
  have I₄ := I₃.later l₄
  have l := (l₂.trans l₃).trans l₄
  refine .invokeArray (q := ("map", 1, .map)) (by decide) I₄ (ht.later l₄) (room'.mono (by omega) (by omega))
    (.mapArray (fun _ _ _ _ h l => h.later l) I₄ (ht.later l₄) hg' (List.length_map _).symm
      fun j entry v hentry hv w₅ l₅ => ?_)
  rw [List.getElem?_map, hentry] at hv
  obtain rfl := Option.some.inj hv
  exact .applyEntry (I₄.later l₅) (hs.later (l.trans l₅)) few hentry (hg'.later l₅) [.object t]
    (room'.mono (by omega) (show 6 ≤ 18 by decide))

end Told

section Methods

variable {d : Document} {n i : Nat} {r : Ref} {e : Element}

/-- The names of the attributes of an element come as an array of texts. -/
theorem Yields.attributeNames (page : c.page = d.numbered) (small : i < 2 ^ 53) (he : d.numbered.element i = .ok e)
    (few : 2 * e.attributes.length ≤ 4294967295) (W : w.realm.Whole) (hr : IsOpenWrapper w.realm.objects r (.nat i))
    (room : c.Room 4 22) :
    Yields ((kernel (n + 4)).invoke (.object r) "getAttributeNames" []) c w
      (IsArrayOf (fun name v _ => v = .string name) (e.attributes.map (·.1))) := by
  refine .invokeMethod (q := ("getAttributeNames", 0, .method .getAttributeNames)) (by simp [nodeMethods, nodeMethod]) W hr
    (room.mono (by decide) (by decide)) ?_
  refine .of_run_eq (bind_of_ok read_run _) ?_
  have room' : (c.inner 2).Room 3 20 := room.inner (by decide) (by decide)
  refine (Yields.attributes (n := n) (c := c.inner 2) page small he few W.framed.toIntact (hr.toIsWrapper.later (.framed w))
    room').bind fun entries w₁ l₁ hentries => ?_
  obtain ⟨s, vs, rfl, hs, each⟩ := hentries
  have I₁ := W.framed.toIntact.later l₁
  refine (Yields.makeNative (f := .node .attributeName) rfl "" 1 fun _ => rfl).bind fun name w₂ l₂ hname => ?_
  obtain ⟨g, rfl, hg⟩ := hname
  have I₂ := I₁.later l₂
  have length := each.length_eq
  refine .invokeArray (q := ("map", 1, .map)) (by decide) I₂ (hs.later l₂) (room'.mono (by decide) (by decide))
    (.mapArray (fun _ _ _ _ h _ => h) I₂ (hs.later l₂) hg (by rw [List.length_map, length]) fun j name v hname hv w₃ l₃ => ?_)
  rw [List.getElem?_map] at hname
  obtain ⟨entry, hentry, rfl⟩ := Option.map_eq_some_iff.mp hname
  obtain ⟨lt, rfl⟩ := List.getElem?_eq_some_iff.mp hentry
  obtain ⟨lt', rfl⟩ := List.getElem?_eq_some_iff.mp hv
  have told : IsEntry e.attributes[j] vs[j] w₁.realm.objects := (List.forall₂_iff_get.mp each).2 j lt lt'
  exact .applyAttributeName (told.later (l₂.trans l₃)) (hg.later l₃) [.nat j, .object s]
    (room'.mono (by decide) (show 6 ≤ 20 by decide))

/-- An element gives the value that is found by a name, or null. -/
theorem Yields.getAttribute (page : c.page = d.numbered) (small : i < 2 ^ 53) (he : d.numbered.element i = .ok e)
    (W : w.realm.Whole) (hr : IsOpenWrapper w.realm.objects r (.nat i)) (s : CodeUnits) (room : c.Room 3 9) :
    Yields ((kernel (n + 3)).invoke (.object r) "getAttribute" [.text s]) c w
      fun v _ => v = textOrNull ((e.sought? s.toText).map (·.value)) := by
  refine .invokeMethod (q := ("getAttribute", 1, .method .getAttribute)) (by simp [nodeMethods, nodeMethod]) W hr
    (room.mono (by decide) (show 4 ≤ 9 by decide)) ?_
  refine .of_run_eq (bind_of_ok read_run _) ?_
  have room' : (c.inner 4).Room 2 5 := room.inner (by decide) (by decide)
  have hr' := hr.toIsWrapper.later (.framed w)
  refine (Yields.isElement (n := n) (c := c.inner 4) page W.framed.toIntact hr' small (node_of_element he) room').bind
    fun b w₁ l₁ hb => ?_
  rw [show b = true from hb]
  have W₁ := W.framed.later l₁
  have kept : (c.inner 4).Room 1 4 := room'.mono (by decide) (by decide)
  refine .of_bind (asText_run (n := n) (c := (c.inner 4).holding 3) W₁ s (kept.holding rfl)) ?_
  exact .of_ok ((askOf_run (n := n + 1) (c := c.inner 4) [.text s] W₁.toIntact (hr'.later l₁)
    (q := ("attribute", 2, .attribute)) (by decide) (room'.mono (by decide) (by decide))).trans
      (attribute_run (c := c.inner 4) page small he s)) rfl

/-- An element has an attribute if something is found by the name. -/
theorem Yields.hasAttribute (page : c.page = d.numbered) (small : i < 2 ^ 53) (he : d.numbered.element i = .ok e)
    (W : w.realm.Whole) (hr : IsOpenWrapper w.realm.objects r (.nat i)) (s : CodeUnits) (room : c.Room 4 13) :
    Yields ((kernel (n + 4)).invoke (.object r) "hasAttribute" [.text s]) c w
      fun v _ => v = .bool (e.sought? s.toText).isSome := by
  refine .invokeMethod (q := ("hasAttribute", 1, .method .hasAttribute)) (by simp [nodeMethods, nodeMethod]) W hr
    (room.mono (by decide) (show 4 ≤ 13 by decide)) ?_
  refine .of_run_eq (bind_of_ok read_run _) ?_
  have hr' : IsOpenWrapper w.framed.realm.objects r (.nat i) := hr
  refine (Yields.getAttribute (n := n) (c := c.inner 4) page small he W.framed hr' s
    (room.inner (by decide) (by decide))).bind fun v w₁ _ hv => .of_ok rfl ?_
  rw [hv]
  cases e.sought? s.toText <;> rfl

end Methods

/-- Lookup by name and the list of attributes, of programs and of scripts. A program finds by a name the attributes that
have it and no namespace; this agrees with the list exactly if what is found speaks for it, as it does under each name that
no attribute in a namespace has. A script reads the same list as a program, if an array has room for its names and values;
its names are those of the list, and it is told what is found by a name or by the name in small letters. Under a name of
the list that is something, with the value of the first entry, exactly if it speaks for the list. -/
theorem attributes_by_name {n : Nat} (d : Document) (c : Context) (w : World) (page : c.page = d.numbered)
    (W : w.realm.Whole) (small : d.nodes.length ≤ 2 ^ 53) (room : c.Room 4 22) :
    let k := kernel (n + 4)
    (∀ (e : Element) (name : String),
      (e.hasAttribute name = true ↔ ∃ a ∈ e.data.attributes, a.name = .plain name) ∧
      (((e.hasAttribute name = true ↔ name ∈ e.attributes.map (·.1)) ∧
        (e.hasAttribute name = true → e.attribute? name = e.listed? name)) ↔ e.SpeaksFor name (e.plain? name)) ∧
      ((∀ a ∈ e.data.attributes, a.name.name = name → a.name = .plain name) →
        e.SpeaksFor name (e.plain? name) ∧ e.SpeaksFor name (e.sought? name))) ∧
    ∀ r i e, IsOpenWrapper w.realm.objects r (.nat i) → d.numbered.element i = .ok e →
      2 * e.attributes.length ≤ 4294967295 →
      Yields (k.propertyOf (.object r) "attributes") c w (IsArrayOf IsEntry e.attributes) ∧
      Yields (k.invoke (.object r) "getAttributeNames" []) c w
        (IsArrayOf (fun name v _ => v = .string name) (e.attributes.map (·.1))) ∧
      ∀ (name : String) (w' : World), w.realm.Later w'.realm →
        Yields (k.invoke (.object r) "hasAttribute" [.string name]) c w' (fun v _ => v = .bool (e.sought? name).isSome) ∧
        Yields (k.invoke (.object r) "getAttribute" [.string name]) c w'
          (fun v _ => v = textOrNull ((e.sought? name).map (·.value))) ∧
        (name ∈ e.attributes.map (·.1) →
          (((e.sought? name).isSome ∧ (e.sought? name).map (·.value) = e.listed? name) ↔
            e.SpeaksFor name (e.sought? name))) := by
  intro k
  refine ⟨fun e name => ⟨Element.hasAttribute_iff, Element.agrees_iff, Element.speaksFor_of_plain⟩,
    fun r i e hr he few => ?_⟩
  have fits : i < 2 ^ 53 := Nat.lt_of_lt_of_le (lt_of_element he) small
  refine ⟨.attributes (n := n + 1) page fits he few W.toIntact hr.toIsWrapper (room.mono (by decide) (by decide)),
    .attributeNames page fits he few W hr room, fun name w' l => ⟨?_, ?_, fun listed => ?_⟩⟩
  · have has := Yields.hasAttribute (n := n) page fits he (W.later l) (hr.later l) (CodeUnits.ofString name)
      (room.mono (by decide) (by decide))
    rwa [CodeUnits.toText_ofString] at has
  · have found := Yields.getAttribute (n := n + 1) page fits he (W.later l) (hr.later l) (CodeUnits.ofString name)
      (room.mono (by decide) (by decide))
    rwa [CodeUnits.toText_ofString] at found
  · rw [Element.speaksFor_iff listed]
    refine and_iff_right_of_imp fun same => ?_
    rw [← Option.isSome_map (f := (·.value)), same]
    exact Element.mem_names_iff_listed?.mp listed

/-- A page with a drawing that has an `id`, and an `href` in a namespace. -/
def drawingPage : Document := .located "<svg id=x xlink:href=y>"

/-- The drawing lists both, but only the `id` is found. -/
theorem exists_drawing : ∃ e, drawingPage.numbered.element 3 = .ok e ∧ e.attributes = [("id", "x"), ("href", "y")] ∧
    e.hasAttribute "href" = false ∧ (e.sought? "href").isSome = false ∧ (e.sought? "id").map (·.value) = some "x" := by
  have told : (drawingPage.numbered.element 3).toOption.map (fun e => (e.attributes, e.hasAttribute "href",
      (e.sought? "href").isSome, (e.sought? "id").map (·.value))) =
        some ([("id", "x"), ("href", "y")], false, false, some "x") := by decide +kernel
  cases he : drawingPage.numbered.element 3 with
  | error _ => rw [he] at told; cases told
  | ok e =>
    rw [he] at told
    simp only [Except.toOption, Option.map_some, Option.some.injEq, Prod.mk.injEq] at told
    exact ⟨e, rfl, told⟩

/-- A script gets the wrapper of a node as soon as it asks for one. -/
theorem exists_openWrapper {i : Nat} (h : i < 2 ^ 53) :
    ∃ r, ∃ w : World, w.realm.Whole ∧ IsOpenWrapper w.realm.objects r (.nat i) := by
  obtain ⟨_, w, -, l, r, rfl, kept⟩ := Yields.wrapNumber (n := 0) (c := .opening drawingPage) (w := ⟨.equipped, {}⟩)
    Realm.equipped_whole.toIntact h ⟨by decide, by decide⟩
  exact ⟨r, w, Realm.equipped_whole.later l, kept.toIsOpenWrapper⟩

/-- The `id` of the drawing is among its names, and is found. -/
theorem attributes_by_name_drawingPage :
    let d := drawingPage
    let c := Context.opening d
    let k := kernel 4
    d.nodes.length ≤ 2 ^ 53 ∧ c.Room 4 22 ∧ ∃ e r w, d.numbered.element 3 = .ok e ∧ w.realm.Whole ∧
      IsOpenWrapper w.realm.objects r (.nat 3) ∧ 2 * e.attributes.length ≤ 4294967295 ∧
      Yields (k.invoke (.object r) "getAttributeNames" []) c w
        (IsArrayOf (fun name v _ => v = .string name) ["id", "href"]) ∧
      Yields (k.invoke (.object r) "hasAttribute" [.string "id"]) c w (fun v _ => v = .bool true) ∧
      Yields (k.invoke (.object r) "getAttribute" [.string "id"]) c w (fun v _ => v = .string "x") := by
  intro d c k
  have small : d.nodes.length ≤ 2 ^ 53 := by decide +kernel
  have room : c.Room 4 22 := ⟨by decide, by decide⟩
  obtain ⟨r, w, W, hr⟩ := exists_openWrapper (show 3 < 2 ^ 53 by decide)
  obtain ⟨e, he, listed, -, -, sought⟩ := exists_drawing
  have few : 2 * e.attributes.length ≤ 4294967295 := by rw [listed]; decide
  obtain ⟨-, names, each⟩ := (attributes_by_name (n := 0) d c w rfl W small room).2 r 3 e hr he few
  obtain ⟨has, found, -⟩ := each "id" w (.refl _)
  rw [listed] at names
  rw [← Option.isSome_map (f := (·.value)), sought] at has
  rw [sought] at found
  exact ⟨small, room, e, r, w, he, W, hr, few, names, has, found⟩

/-- The `href` of the drawing is among its names, but neither a program nor a script finds it. -/
theorem moved_attribute_not_found :
    let d := drawingPage
    let c := Context.opening d
    let k := kernel 4
    ∃ e r w, d.numbered.element 3 = .ok e ∧ "href" ∈ e.attributes.map (·.1) ∧ e.hasAttribute "href" = false ∧
      w.realm.Whole ∧ IsOpenWrapper w.realm.objects r (.nat 3) ∧
      Yields (k.invoke (.object r) "getAttributeNames" []) c w
        (IsArrayOf (fun name v _ => v = .string name) ["id", "href"]) ∧
      Yields (k.invoke (.object r) "hasAttribute" [.string "href"]) c w fun v _ => v = .bool false := by
  intro d c k
  have room : c.Room 4 22 := ⟨by decide, by decide⟩
  obtain ⟨r, w, W, hr⟩ := exists_openWrapper (show 3 < 2 ^ 53 by decide)
  obtain ⟨e, he, listed, missing, unsought, -⟩ := exists_drawing
  have few : 2 * e.attributes.length ≤ 4294967295 := by rw [listed]; decide
  have names := Yields.attributeNames (n := 0) (c := c) rfl (by decide) he few W hr room
  have has := Yields.hasAttribute (n := 0) (c := c) rfl (by decide) he W hr (CodeUnits.ofString "href")
    (room.mono (by decide) (by decide))
  rw [listed] at names
  rw [CodeUnits.toText_ofString, unsought] at has
  exact ⟨e, r, w, he, by rw [listed]; decide, missing, W, hr, names, has⟩

end Script

end Pagewalk
