import Mathlib.Data.List.Perm.Subperm
import Pagewalk.Source.Pairing

/-!
# What pairing takes

An element takes a tag that produces it or none. A tag that is taken leaves a gap or is passed over with those
before it, so no tag is taken twice: the tags that a whole pairing takes, and those that are left, are together
among the tags that there were.
-/

namespace Pagewalk.Source

/-- The tags that are not taken. -/
def held (tags : List (Option StartTag)) : List StartTag := tags.filterMap id

theorem held_cons_some (t : StartTag) (tags : List (Option StartTag)) : held (some t :: tags) = t :: held tags := rfl

theorem held_map_some (tags : List StartTag) : held (tags.map some) = tags := by
  induction tags with
  | nil => rfl
  | cons t tags ih => rw [List.map_cons, held_cons_some, ih]

theorem held_dropWhile (p : Option StartTag → Bool) (tags : List (Option StartTag)) :
    (held (tags.dropWhile p)).Sublist (held tags) :=
  (List.dropWhile_sublist p).filterMap id

/-- What is taken ahead produces the element, and is held no more. -/
theorem takeAhead_eq_some {element : String} {n : Nat} {tags rest : List (Option StartTag)} {l : Location}
    (h : takeAhead element n tags = some (l, rest)) :
    ∃ t, t.location = l ∧ produces t.name element = true ∧ (t :: held rest).Perm (held tags) := by
  induction n generalizing tags rest with
  | zero => cases h
  | succ n ih =>
    cases tags with
    | nil => cases h
    | cons first tags =>
      cases first with
      | none =>
        obtain ⟨⟨l', tags'⟩, hahead, heq⟩ := Option.map_eq_some_iff.mp h
        obtain ⟨rfl, rfl⟩ := Prod.mk.inj heq
        obtain ⟨t, hl, hp, hperm⟩ := ih hahead
        exact ⟨t, hl, hp, hperm⟩
      | some t =>
        rw [takeAhead] at h
        split at h
        · rename_i hp
          obtain ⟨rfl, rfl⟩ := Prod.mk.inj (Option.some.inj h)
          exact ⟨t, rfl, hp, .rfl⟩
        · obtain ⟨⟨l', tags'⟩, hahead, heq⟩ := Option.map_eq_some_iff.mp h
          obtain ⟨rfl, rfl⟩ := Prod.mk.inj heq
          obtain ⟨u, hl, hp, hperm⟩ := ih hahead
          exact ⟨u, hl, hp, (List.Perm.swap t u _).trans (hperm.cons t)⟩

/-- Looking ahead takes the first tag that produces the element, if it looks that far. -/
theorem takeAhead_append {element : String} {t : StartTag} {n : Nat} {front back : List (Option StartTag)}
    (hp : produces t.name element = true) (first : ∀ u, some u ∈ front → produces u.name element = false) :
    takeAhead element n (front ++ some t :: back) =
      if front.length < n then some (t.location, front ++ none :: back) else none := by
  induction front generalizing n with
  | nil => cases n <;> simp [takeAhead, hp]
  | cons x front ih =>
    have ahead := fun n => ih (n := n) fun u hu => first u (List.mem_cons_of_mem _ hu)
    cases n with
    | zero => simp [takeAhead]
    | succ n =>
      cases x with
      | none => simp only [List.cons_append, takeAhead, ahead]; split <;> simp_all
      | some u =>
        have hu : produces u.name element = false := first u List.mem_cons_self
        simp only [List.cons_append, takeAhead, hu, ahead]
        split <;> simp_all

/-- What an element takes that the tag at hand does not produce. -/
def orAhead (element : String) (tags : List (Option StartTag)) : Option Location × List (Option StartTag) :=
  if impliedNames.contains element then (none, tags)
  else match takeAhead element reach tags with
    | none => (none, tags)
    | some (l, tags) => (some l, tags)

/-- An element takes a tag that produces it, or none, and with what is taken there are no more tags left than there
were. -/
def Takes (element : String) (tags : List (Option StartTag)) (r : Option Location × List (Option StartTag)) : Prop :=
  ∃ taken : Option StartTag, r.1 = taken.map (·.location) ∧ (∀ t ∈ taken, produces t.name element = true) ∧
    (taken.toList ++ held r.2).Subperm (held tags)

theorem Takes.none {element : String} {tags rest : List (Option StartTag)} (h : (held rest).Subperm (held tags)) :
    Takes element tags (none, rest) := ⟨.none, rfl, nofun, h⟩

theorem Takes.some {element : String} {tags rest : List (Option StartTag)} {t : StartTag}
    (hp : produces t.name element = true) (h : (t :: held rest).Subperm (held tags)) :
    Takes element tags (some t.location, rest) := by
  refine ⟨.some t, rfl, ?_, h⟩
  intro u hu
  rw [← Option.some.inj hu]
  exact hp

theorem orAhead_takes {element : String} {tags rest : List (Option StartTag)}
    (h : (held rest).Subperm (held tags)) : Takes element tags (orAhead element rest) := by
  unfold orAhead
  split
  · exact .none h
  · split
    · exact .none h
    · rename_i htake
      obtain ⟨t, rfl, hp, hperm⟩ := takeAhead_eq_some htake
      exact .some hp (hperm.subperm.trans h)

theorem pairNext_takes (element : String) (tags : List (Option StartTag)) :
    Takes element tags (pairNext element tags) := by
  have dropped := (held_dropWhile Option.isNone tags).subperm
  unfold pairNext
  dsimp only
  split
  · rename_i t rest hnext
    split
    · rename_i hp
      have passed := (held_dropWhile (isPassed element) (tags.dropWhile Option.isNone)).subperm
      rw [hnext, held_cons_some] at passed
      exact .some hp (passed.trans dropped)
    · exact orAhead_takes dropped
  · exact orAhead_takes dropped

/-! ### Whole pairings -/

/-- Pairs one more element. -/
def pairStep (paired : List (Option Location) × List (Option StartTag)) (element : String) :
    List (Option Location) × List (Option StartTag) :=
  ((pairNext element paired.2).1 :: paired.1, (pairNext element paired.2).2)

theorem pair_eq_foldl (elements : List String) (tags : List (Option StartTag)) :
    pair elements tags = (elements.foldl pairStep ([], tags)).1.reverse := rfl

theorem foldl_pairStep (elements : List String) (found : List (Option Location)) (tags : List (Option StartTag)) :
    (elements.foldl pairStep (found, tags)).1.reverse = found.reverse ++ pair elements tags := by
  induction elements generalizing found tags with
  | nil => exact (List.append_nil _).symm
  | cons e es ih =>
    rw [pair_eq_foldl, List.foldl_cons, List.foldl_cons, pairStep, pairStep, ih, ih, List.reverse_cons,
      List.append_assoc]
    rfl

/-- The first element is paired, and the others with the tags that it leaves. -/
theorem pair_cons (element : String) (elements : List String) (tags : List (Option StartTag)) :
    pair (element :: elements) tags = (pairNext element tags).1 :: pair elements (pairNext element tags).2 := by
  rw [pair_eq_foldl, List.foldl_cons, pairStep, foldl_pairStep]
  rfl

/-- A pairing gives each element a tag that produces it, or none, and no tag twice. -/
theorem pair_takes (elements : List String) (tags : List (Option StartTag)) :
    ∃ taken : List (Option StartTag), pair elements tags = taken.map (·.map (·.location)) ∧
      List.Forall₂ (fun element t? => ∀ t ∈ t?, produces t.name element = true) elements taken ∧
      (held taken).Subperm (held tags) := by
  induction elements generalizing tags with
  | nil => exact ⟨[], rfl, .nil, List.nil_subperm⟩
  | cons e es ih =>
    obtain ⟨first, hfirst, hp, hsub⟩ := pairNext_takes e tags
    obtain ⟨rest, hrest, hps, hsubs⟩ := ih (pairNext e tags).2
    refine ⟨first :: rest, ?_, .cons hp hps, ?_⟩
    · rw [pair_cons, hfirst, hrest, List.map_cons]
    · have front : held (first :: rest) = first.toList ++ held rest := by cases first <;> rfl
      rw [front]
      exact ((List.subperm_append_left _).mpr hsubs).trans hsub

end Pagewalk.Source
