import Pagewalk.Proofs.Source.Assignments

/-!
# A tag that is ignored

A tag that produces no element and that is not one of those that may be dropped is never taken and never passed
over. Pairing comes to a stop at it: each element behind it looks ahead from there, an implied one not at all and
any other for a few tags. So the tags behind an ignored tag are found exactly if they are few and none of them is
the tag of an implied element.
-/

namespace Pagewalk.Source

/-! ### An element at an ignored tag -/

section Behind
variable {x : StartTag} {e : String} {tags : List (Option StartTag)}

/-- An element that an ignored tag does not produce looks ahead from it. -/
theorem pairNext_of_ignored (kept : x.name ∉ droppedNames) (ignored : produces x.name e = false) :
    pairNext e (some x :: tags) = orAhead e (some x :: tags) := by
  have stop : isPassed e (some x) = false := by
    rw [isPassed, Bool.eq_false_iff.mpr (mt List.contains_iff_mem.mp kept), Bool.false_and]
  refine pairNext_of_stuck fun t rest h => ?_
  rw [List.dropWhile_cons_of_neg (by rw [stop]; exact Bool.false_ne_true)] at h
  rw [← Option.some.inj (List.cons.inj h).1]
  exact ignored

theorem pairNext_of_ignored_implied (kept : x.name ∉ droppedNames) (ignored : produces x.name e = false)
    (implied : e ∈ impliedNames) : pairNext e (some x :: tags) = (none, some x :: tags) := by
  rw [pairNext_of_ignored kept ignored, orAhead, if_pos (List.contains_iff_mem.mpr implied)]

/-- The tag that an element finds behind an ignored one, where all tags between them are taken. -/
theorem pairNext_of_ignored_gaps {t : StartTag} (kept : x.name ∉ droppedNames) (ignored : produces x.name e = false)
    (needed : e ∉ impliedNames) (hp : produces t.name e = true) (k : Nat) :
    pairNext e (some x :: (List.replicate k none ++ some t :: tags)) =
      if k + 1 < reach then (some t.location, some x :: (List.replicate (k + 1) none ++ tags))
      else (none, some x :: (List.replicate k none ++ some t :: tags)) := by
  have look : takeAhead e reach (some x :: (List.replicate k none ++ some t :: tags)) =
      if k + 1 < reach then some (t.location, some x :: (List.replicate (k + 1) none ++ tags)) else none := by
    have first : ∀ u, some u ∈ some x :: List.replicate k none → produces u.name e = false := by
      intro u hu
      rcases List.mem_cons.mp hu with hu | hu
      · rwa [Option.some.inj hu]
      · cases List.eq_of_mem_replicate hu
    rw [← List.cons_append, takeAhead_append hp first, List.length_cons, List.length_replicate, List.replicate_succ',
      List.append_assoc]
    rfl
  rw [pairNext_of_ignored kept ignored, orAhead, if_neg (mt List.contains_iff_mem.mp needed), look]
  by_cases near : k + 1 < reach
  · rw [if_pos near, if_pos near]
  · rw [if_neg near, if_neg near]

end Behind

/-! ### Elements behind an ignored tag -/

/-- Each element that is given a tag behind the first `n` needs it, and finds it less than a reach behind them,
where `k` more tags stand between. -/
def InReach (n k : Nat) (es : List String) (given : List (Option StartTag)) : Prop :=
  ∀ i e t, es[i]? = some e → given[i]? = some (some t) → n ≤ (held (given.take i)).length →
    e ∉ impliedNames ∧ k + (held (given.take i)).length + 1 < n + reach

/-- An element that is given a tag is not located. -/
def Loses (es : List String) (given : List (Option StartTag)) (tags : List (Option StartTag)) : Prop :=
  ∃ (i : Nat) (t : StartTag), given[i]? = some (some t) ∧ (pair es tags)[i]? = some none

section Reaching
variable {n k : Nat} {e : String} {es : List String} {t : StartTag} {given : List (Option StartTag)}
  {tags rest : List (Option StartTag)} {l? : Option Location}

theorem inReach_nil : InReach n k [] given := nofun

theorem inReach_cons_none : InReach n k (e :: es) (none :: given) ↔ InReach n k es given := by
  rw [InReach, ← Nat.and_forall_add_one]
  simp only [List.getElem?_cons_zero, List.getElem?_cons_succ, List.take_succ_cons]
  exact and_iff_right nofun

theorem inReach_succ_cons_some : InReach (n + 1) k (e :: es) (some t :: given) ↔ InReach n k es given := by
  rw [InReach, ← Nat.and_forall_add_one]
  simp only [List.getElem?_cons_zero, List.getElem?_cons_succ, List.take_succ_cons, List.take_zero, held_cons_some,
    List.length_cons]
  refine (and_iff_right fun _ _ _ _ h => absurd h (Nat.not_succ_le_zero n)).trans ?_
  simp only [InReach, Nat.add_le_add_iff_right, ← Nat.add_assoc, Nat.add_right_comm n 1 reach,
    Nat.add_lt_add_iff_right]

theorem inReach_zero_cons_some : InReach 0 k (e :: es) (some t :: given) ↔
    (e ∉ impliedNames ∧ k + 1 < reach) ∧ InReach 0 (k + 1) es given := by
  rw [InReach, ← Nat.and_forall_add_one]
  simp only [List.getElem?_cons_zero, List.getElem?_cons_succ, List.take_succ_cons, List.take_zero, held_cons_some,
    List.length_cons, Option.some.injEq]
  refine and_congr ⟨fun h => ?_, ?_⟩ ?_
  · have := h e t rfl rfl (Nat.zero_le _)
    rwa [Nat.zero_add] at this
  · rintro h _ _ rfl rfl -
    rwa [Nat.zero_add]
  · simp only [InReach, Nat.zero_le, Nat.zero_add, ← Nat.add_assoc, Nat.add_right_comm k _ 1]

theorem loses_cons (hnext : pairNext e tags = (l?, rest)) (first : Option StartTag) (h : Loses es given rest) :
    Loses (e :: es) (first :: given) tags := by
  obtain ⟨i, t, ht, hl⟩ := h
  refine ⟨i + 1, t, ht, ?_⟩
  rw [pair_cons, hnext]
  exact hl

theorem loses_first (hnext : pairNext e tags = (none, rest)) : Loses (e :: es) (some t :: given) tags :=
  ⟨0, t, rfl, by rw [pair_cons, hnext]; rfl⟩

theorem pair_ne_of_loses (h : Loses es given tags) : pair es tags ≠ given.map (·.map (·.location)) := by
  obtain ⟨i, t, ht, hl⟩ := h
  intro same
  rw [same, List.getElem?_map, ht] at hl
  cases hl

end Reaching

/-- How the pairing goes from an ignored tag on, behind which `k` tags are taken: all elements are given their own
tags, or some element that is given one loses it. -/
theorem pair_behind {x : StartTag} {spare : String → Prop} {es : List String} {given : List (Option StartTag)}
    (kept : x.name ∉ droppedNames) (implied : ∀ e, spare e → e ∈ impliedNames)
    (ignored : ∀ e ∈ es, produces x.name e = false) (fits : List.Forall₂ (Fits spare) es given) (k : Nat) :
    let tags := some x :: (List.replicate k none ++ (held given).map some)
    (InReach 0 k es given → pair es tags = given.map (·.map (·.location))) ∧
      (¬ InReach 0 k es given → Loses es given tags) := by
  induction fits generalizing k with
  | nil => exact ⟨fun _ => rfl, fun h => absurd inReach_nil h⟩
  | @cons e first es given hfirst fits ih =>
    intro tags
    have hx : produces x.name e = false := ignored e (List.mem_cons_self ..)
    have ih := ih fun f hf => ignored f (List.mem_cons_of_mem _ hf)
    cases first with
    | none =>
      have hnext : pairNext e tags = (none, tags) := pairNext_of_ignored_implied kept hx (implied e hfirst)
      rw [inReach_cons_none]
      refine ⟨fun h => ?_, fun h => loses_cons hnext none ((ih k).2 h)⟩
      rw [pair_cons, hnext]
      exact congrArg (none :: ·) ((ih k).1 h)
    | some t =>
      rw [inReach_zero_cons_some]
      by_cases needed : e ∈ impliedNames
      · have hnext : pairNext e tags = (none, tags) := pairNext_of_ignored_implied kept hx needed
        exact ⟨fun h => absurd needed h.1.1, fun _ => loses_first hnext⟩
      · -- A tag that is taken here leaves one more gap for the elements behind.
        have hnext := @pairNext_of_ignored_gaps x e ((held given).map some) t kept hx needed hfirst k
        by_cases near : k + 1 < reach
        · rw [if_pos near] at hnext
          refine ⟨fun h => ?_, fun h => loses_cons hnext _ ((ih (k + 1)).2 fun h' => h ⟨⟨needed, near⟩, h'⟩)⟩
          show pair (e :: es) (some x :: (List.replicate k none ++ some t :: (held given).map some)) = _
          rw [pair_cons, hnext]
          exact congrArg (some t.location :: ·) ((ih (k + 1)).1 h.2)
        · rw [if_neg near] at hnext
          exact ⟨fun h => absurd h.1.2 near, fun _ => loses_first hnext⟩

/-- How the pairing goes around an ignored tag. -/
theorem pair_around {x : StartTag} {all : List StartTag} {es : List String} {given : List (Option StartTag)}
    {before after : List StartTag} (kept : x.name ∉ droppedNames) (ignored : ∀ e ∈ es, produces x.name e = false)
    (fits : List.Forall₂ (Fits fun e => e ∈ impliedNames ∧ ∀ t ∈ all, produces t.name e = false) es given)
    (hall : held given = before ++ after) (within : before ++ x :: after ⊆ all) :
    let tags := (before ++ x :: after).map some
    (InReach before.length 0 es given → pair es tags = given.map (·.map (·.location))) ∧
      (¬ InReach before.length 0 es given → Loses es given tags) := by
  induction fits generalizing before with
  | nil => exact ⟨fun _ => rfl, fun h => absurd inReach_nil h⟩
  | @cons e first es given hfirst fits ih =>
    intro tags
    have ignored' := fun f hf => ignored f (List.mem_cons_of_mem _ hf)
    cases before with
    | nil =>
      have behind := pair_behind kept (fun _ h => h.1) ignored (.cons hfirst fits) 0
      rw [hall] at behind
      exact behind
    | cons b before =>
      cases first with
      | none =>
        -- No tag produces an element that is left over, so it does not reach over those before its own place.
        have clear : ¬ Overreaches e (b :: before ++ x :: after) := by
          rintro ⟨passed, t, rest, split, -, hp⟩
          have ht : t ∈ all := within (split ▸ List.mem_append_right _ (List.mem_cons_self ..))
          rw [hfirst.2 t ht] at hp
          cases hp
        have hnext : pairNext e tags = (none, tags) := pairNext_of_not_overreaches hfirst.1 clear
        have ih := ih ignored' hall within
        rw [inReach_cons_none]
        refine ⟨fun h => ?_, fun h => loses_cons hnext none (ih.2 h)⟩
        rw [pair_cons, hnext]
        exact congrArg (none :: ·) (ih.1 h)
      | some t =>
        obtain ⟨rfl, hrest⟩ := List.cons.inj hall
        have hnext : pairNext e tags = (some t.location, (before ++ x :: after).map some) :=
          pairNext_of_produces hfirst
        have ih := ih ignored' hrest fun u hu => within (List.mem_cons_of_mem _ hu)
        rw [List.length_cons, inReach_succ_cons_some]
        refine ⟨fun h => ?_, fun h => loses_cons hnext _ (ih.2 h)⟩
        rw [pair_cons, hnext]
        exact congrArg (some t.location :: ·) (ih.1 h)

/-- An element that is given a tag and loses it in the pairing of a document is not located there. -/
theorem Loses.not_located {source : String} {d : Document} {given : List (Option StartTag)}
    (h : Loses (names d) given ((startTags source).map some)) :
    ∃ row ∈ rows d.elements (given.map (·.map (·.location))), ∀ l, (row.1, l) ∉ locate source d := by
  obtain ⟨i, t, ht, hl⟩ := h
  have hi : i < d.elements.length := by
    have := (List.getElem?_eq_some_iff.mp hl).1
    rwa [length_pair, names, List.length_map] at this
  refine ⟨(d.elements[i].key, t.location), mem_rows.mpr ?_, fun l hmem => ?_⟩
  · exact ⟨i, d.elements[i], List.getElem?_eq_getElem hi, rfl, by rw [List.getElem?_map, ht]; rfl⟩
  · rw [locate_eq_rows] at hmem
    obtain ⟨j, e, he, hkey, hfound⟩ := mem_rows.mp hmem
    rw [place_eq_of_key d.nodup_keys he (List.getElem?_eq_getElem hi) hkey] at hfound
    cases hfound.symm.trans hl

/-- One tag of a source produces no element and may not be dropped, and the other tags are given out in order to all
elements but the implied ones that no tag produces. -/
structure IgnoresOne (source : String) (d : Document) (before : List StartTag) (x : StartTag) (after : List StartTag)
    (given : List (Option StartTag)) : Prop where
  split : startTags source = before ++ x :: after
  ignored : ∀ e ∈ names d, produces x.name e = false
  kept : x.name ∉ droppedNames
  assigned : Assigns (fun e => e ∈ impliedNames ∧ ∀ t ∈ startTags source, produces t.name e = false) (names d)
    (before ++ after) given

/-- Around an ignored tag each element is located at its own tag exactly if those behind the ignored tag need their
tags and find them less than a reach behind it; otherwise some of them is not located at all. -/
theorem locate_around_ignored {source : String} {d : Document} {before after : List StartTag} {x : StartTag}
    {given : List (Option StartTag)} (h : IgnoresOne source d before x after given) :
    (locate source d = rows d.elements (given.map (·.map (·.location))) ↔
      ∀ i e t, (names d)[i]? = some e → given[i]? = some (some t) → before.length ≤ (held (given.take i)).length →
        e ∉ impliedNames ∧ (held (given.take i)).length + 1 < before.length + reach) ∧
    ((∀ row ∈ rows d.elements (given.map (·.map (·.location))), ∃ l, (row.1, l) ∈ locate source d) →
      locate source d = rows d.elements (given.map (·.map (·.location)))) := by
  obtain ⟨found, lost⟩ := pair_around h.kept h.ignored h.assigned.fits h.assigned.all (h.split ▸ List.Subset.refl _)
  rw [← h.split] at found lost
  have inReach_iff : InReach before.length 0 (names d) given ↔
      ∀ i e t, (names d)[i]? = some e → given[i]? = some (some t) → before.length ≤ (held (given.take i)).length →
        e ∉ impliedNames ∧ (held (given.take i)).length + 1 < before.length + reach := by
    simp only [InReach, Nat.zero_add]
  rw [← inReach_iff, locate_eq_rows_iff h.assigned.fits.length_eq]
  refine ⟨⟨fun same => ?_, found⟩, fun located => found ?_⟩
  · exact Classical.byContradiction fun out => pair_ne_of_loses (lost out) same
  · refine Classical.byContradiction fun out => ?_
    obtain ⟨row, hrow, none_found⟩ := (lost out).not_located
    obtain ⟨l, hl⟩ := located row hrow
    exact none_found l hl

/-! ### Three pages -/

/-- The conditions read off the tags and the names of a page. -/
theorem IgnoresOne.of_lists {source : String} {d : Document} {before after : List StartTag} {x : StartTag}
    {given : List (Option StartTag)} {es : List String} (tags : startTags source = before ++ x :: after)
    (elements : names d = es) (ignored : ∀ e ∈ es, produces x.name e = false) (kept : x.name ∉ droppedNames)
    (given_out : given ∈ assignments
      (fun e => impliedNames.contains e && (before ++ x :: after).all fun t => !produces t.name e) es (before ++ after)) :
    IgnoresOne source d before x after given := by
  refine ⟨tags, elements ▸ ignored, kept, ?_⟩
  rw [tags, elements]
  simpa only [Bool.and_eq_true, List.contains_iff_mem, List.all_eq_true, Bool.not_eq_true'] using
    mem_assignments.mp given_out

/-- A `select` at the start of a page. -/
def selectTag : StartTag := ⟨"select", ⟨0, 1, 0⟩⟩

/-- A `div` that the `select` around it does not take in. -/
def ignoredDiv : StartTag := ⟨"div", ⟨0, 9, 8⟩⟩

/-- A page with a `div` in a `select` and a paragraph behind them. -/
def selectPage : String := "<select><div></select><p>"

/-- The paragraph is found behind the ignored `div`. -/
theorem locate_around_ignored_selectPage :
    let d := Document.ofText selectPage
    let given := [none, none, none, some selectTag, some ⟨"p", ⟨0, 23, 22⟩⟩]
    IgnoresOne selectPage d [selectTag] ignoredDiv [⟨"p", ⟨0, 23, 22⟩⟩] given ∧
      locate selectPage d = rows d.elements (given.map (·.map (·.location))) := by
  intro d given
  have elements : names d = ["html", "head", "body", "select", "p"] := by decide +kernel
  have one : IgnoresOne selectPage d [selectTag] ignoredDiv [⟨"p", ⟨0, 23, 22⟩⟩] given :=
    .of_lists (by decide +kernel) elements (by decide +kernel) (by decide) (by decide +kernel)
  refine ⟨one, (locate_around_ignored one).1.mpr fun i e t he ht behind => ?_⟩
  rw [elements] at he
  match i with
  | 0 | 1 | 2 => cases ht
  | 3 => exact absurd behind (by decide)
  | 4 =>
    obtain rfl := Option.some.inj he
    exact by decide
  | _ + 5 => cases he

/-- The same page with a row of a table in the place of the paragraph. -/
def rowBehindPage : String := "<select><div></select><table><tr>"

/-- The same page with sixteen paragraphs. -/
def crowdedPage : String := "<select><div></select><p><p><p><p><p><p><p><p><p><p><p><p><p><p><p><p>"

/-- The tags of the sixteen paragraphs. -/
def paragraphs : List StartTag := (List.range 16).map fun i => ⟨"p", ⟨0, 23 + 3 * i, 22 + 3 * i⟩⟩

/-- Behind one ignored tag a row of a table loses its location, and so does the sixteenth paragraph. -/
theorem ignored_tag_costs_locations :
    (let d := Document.ofText rowBehindPage
      let given := [none, none, none, some selectTag, some ⟨"table", ⟨0, 23, 22⟩⟩, none, some ⟨"tr", ⟨0, 30, 29⟩⟩]
      (Document.parse default rowBehindPage).2 = .ok (Document.located rowBehindPage) ∧
        IgnoresOne rowBehindPage d [selectTag] ignoredDiv [⟨"table", ⟨0, 23, 22⟩⟩, ⟨"tr", ⟨0, 30, 29⟩⟩] given ∧
        ∃ row ∈ rows d.elements (given.map (·.map (·.location))), ∀ l, (row.1, l) ∉ locate rowBehindPage d) ∧
    (let d := Document.ofText crowdedPage
      let given := [none, none, none, some selectTag] ++ paragraphs.map some
      (Document.parse default crowdedPage).2 = .ok (Document.located crowdedPage) ∧
        IgnoresOne crowdedPage d [selectTag] ignoredDiv paragraphs given ∧
        ∃ row ∈ rows d.elements (given.map (·.map (·.location))), ∀ l, (row.1, l) ∉ locate crowdedPage d) := by
  constructor
  · intro d given
    have elements : names d = ["html", "head", "body", "select", "table", "tbody", "tr"] := by decide +kernel
    have one : IgnoresOne rowBehindPage d [selectTag] ignoredDiv [⟨"table", ⟨0, 23, 22⟩⟩, ⟨"tr", ⟨0, 30, 29⟩⟩] given :=
      .of_lists (by decide +kernel) elements (by decide +kernel) (by decide) (by decide +kernel)
    refine ⟨Document.parse_of_lenient (by decide) rfl, one, Loses.not_located ⟨6, ⟨"tr", ⟨0, 30, 29⟩⟩, rfl, ?_⟩⟩
    rw [elements, one.split]
    decide +kernel
  · intro d given
    have elements : names d = ["html", "head", "body", "select"] ++ List.replicate 16 "p" := by decide +kernel
    have one : IgnoresOne crowdedPage d [selectTag] ignoredDiv paragraphs given :=
      .of_lists (by decide +kernel) elements (by decide +kernel) (by decide) (by decide +kernel)
    refine ⟨Document.parse_of_lenient (by decide) rfl, one, Loses.not_located ⟨19, ⟨"p", ⟨0, 68, 67⟩⟩, rfl, ?_⟩⟩
    rw [elements, one.split]
    decide +kernel

end Pagewalk.Source
