import Mathlib.Data.List.TakeDrop
import Pagewalk.Proofs.Source.Readings

/-!
# Start tags in a source

Where a start tag is reported, the source opens it: `<`, the letters of the name, and then a blank, a slash or a
`>`. The offsets of the reported tags ascend. Both are read off one cut: what is cut off goes before all that
follows, and a start tag takes at least its `<`.
-/

namespace Pagewalk.Source

open Text

/-! ### Tags -/

/-- The text of a tag behind its `<` and its slash: the letters of the name, then a character that is none of the
name. -/
theorem tagFrom?_eq_some {isEnd : Bool} {before : Nat} {cs : List Char} {t : TagText} {n : Nat}
    (h : tagFrom? isEnd before cs = some (t, n)) :
    ∃ written c rest, cs = written ++ c :: rest ∧ t.name = lower (String.ofList written) ∧ t.isEnd = isEnd ∧
      isNameChar c = false ∧ before < n := by
  obtain ⟨ends, named, within, fits⟩ := tagFrom?_name h
  have split : cs.takeWhile isNameChar ++ cs.dropWhile isNameChar = cs := List.takeWhile_append_dropWhile
  have stop := List.head?_dropWhile_not isNameChar cs
  cases hrest : cs.dropWhile isNameChar with
  | nil =>
    rw [hrest, List.append_nil] at split
    rw [split] at within
    omega
  | cons c rest =>
    rw [hrest] at stop split
    exact ⟨cs.takeWhile isNameChar, c, rest, split.symm, named, ends, stop, by omega⟩

/-- A text opens with the start tag of this name: `<`, the letters of the name, and a character that is none of it. -/
def Opens (name : String) (cs : List Char) : Prop :=
  ∃ written c rest, cs = '<' :: (written ++ c :: rest) ∧ lower (String.ofList written) = name ∧ isNameChar c = false

theorem opens_of_tag? {cs : List Char} {t : TagText} {n : Nat} (h : tag? cs = some (t, n)) (start : t.isEnd = false) :
    Opens t.name cs ∧ 0 < n := by
  unfold tag? at h
  split at h
  · obtain ⟨-, -, -, -, -, hend, -⟩ := tagFrom?_eq_some h
    rw [hend] at start
    cases start
  · obtain ⟨written, c, rest, rfl, hname, -, hc, hn⟩ := tagFrom?_eq_some h
    exact ⟨⟨written, c, rest, rfl, hname.symm, hc⟩, Nat.lt_of_succ_lt hn⟩
  · cases h

/-- A segment that is a start tag stands where the source opens it, and it is not empty. -/
theorem opens_of_segmentAt {cs : List Char} {name : String} {selfClosing : Bool}
    (h : (segmentAt cs).1 = .startTag name selfClosing) : Opens name cs ∧ 0 < (segmentAt cs).2 := by
  revert h
  unfold segmentAt
  split
  · nofun
  · nofun
  · nofun
  · split
    · nofun
    · rename_i t n ht
      intro h
      cases hend : t.isEnd with
      | true => simp [hend] at h
      | false =>
        simp only [hend, Bool.false_eq_true, if_false, SegmentKind.startTag.injEq] at h
        obtain ⟨rfl, -⟩ := h
        exact opens_of_tag? ht hend

/-! ### Cuts -/

theorem cut_acc (fuel : Nat) (acc : List Segment) (cs : List Char) :
    cut fuel acc cs = acc.reverse ++ cut fuel [] cs := by
  induction fuel generalizing acc cs with
  | zero => simp [cut]
  | succ fuel ih =>
    cases cs with
    | nil => simp [cut]
    | cons c cs =>
      simp only [cut]
      split
      · rw [ih, ih [_]]
        simp
      · rw [ih, ih [_, _]]
        simp

/-- A cut takes a segment off the front, with the raw text behind it, and goes on with the rest. -/
theorem cut_cons (fuel : Nat) (c : Char) (cs : List Char) :
    ∃ raw rest, (∀ s ∈ raw, s.kind = .raw) ∧
      (c :: cs).drop (segmentAt (c :: cs)).2 = raw.flatMap Segment.chars ++ rest ∧
      cut (fuel + 1) [] (c :: cs) =
        ⟨(segmentAt (c :: cs)).1, (c :: cs).take (segmentAt (c :: cs)).2⟩ :: (raw ++ cut fuel [] rest) := by
  simp only [cut, List.splitAt_eq]
  split
  · refine ⟨[], _, nofun, rfl, ?_⟩
    rw [cut_acc]
    rfl
  · rename_i m _
    let rest := (c :: cs).drop (segmentAt (c :: cs)).2
    refine ⟨[⟨.raw, rest.take (m + 1)⟩], rest.drop (m + 1), ?_, ?_, ?_⟩
    · intro s hs
      rw [List.mem_singleton.mp hs]
    · rw [List.flatMap_singleton, List.take_append_drop]
    · rw [cut_acc]
      rfl

/-! ### Offsets -/

theorem byteLength_cons (c : Char) (cs : List Char) : byteLength (c :: cs) = c.utf8Size + byteLength cs := by
  have start : ∀ (cs : List Char) (n : Nat), cs.foldl (fun n c => n + c.utf8Size) n = n + byteLength cs := by
    intro cs
    induction cs with
    | nil => exact fun n => rfl
    | cons d cs ih =>
      intro n
      rw [byteLength, List.foldl_cons, List.foldl_cons, ih, ih, Nat.zero_add, Nat.add_assoc]
  rw [byteLength, List.foldl_cons, start, Nat.zero_add]

theorem byteLength_append (as bs : List Char) : byteLength (as ++ bs) = byteLength as + byteLength bs := by
  induction as with
  | nil => exact (Nat.zero_add _).symm
  | cons a as ih => rw [List.cons_append, byteLength_cons, byteLength_cons, ih, Nat.add_assoc]

theorem byteLength_pos {cs : List Char} (h : cs ≠ []) : 0 < byteLength cs := by
  obtain ⟨c, rest, rfl⟩ := List.exists_cons_of_ne_nil h
  rw [byteLength_cons]
  exact Nat.add_pos_left c.utf8Size_pos _

theorem tagsOf_append (offset : Nat) (ss ts : List Segment) :
    tagsOf offset (ss ++ ts) = tagsOf offset ss ++ tagsOf (offset + byteLength (ss.flatMap Segment.chars)) ts := by
  induction ss generalizing offset with
  | nil => rfl
  | cons s ss ih =>
    rw [List.cons_append, tagsOf, tagsOf, ih, List.flatMap_cons, byteLength_append, ← Nat.add_assoc]
    split <;> rfl

theorem tagsOf_raw {ss : List Segment} (h : ∀ s ∈ ss, s.kind = .raw) (offset : Nat) : tagsOf offset ss = [] := by
  induction ss generalizing offset with
  | nil => rfl
  | cons s ss ih =>
    rw [tagsOf, h s (List.mem_cons_self ..)]
    exact ih (fun x hx => h x (List.mem_cons_of_mem _ hx)) _

/-- The tags of a cut: the one at its front, if there is one, and those of the rest, which begins further on. -/
theorem tagsOf_cut (offset fuel : Nat) (c : Char) (cs : List Char) :
    ∃ front rest, c :: cs = front ++ rest ∧
      (tagsOf offset (cut (fuel + 1) [] (c :: cs)) = tagsOf (offset + byteLength front) (cut fuel [] rest) ∨
        ∃ name, Opens name (c :: cs) ∧ front ≠ [] ∧ tagsOf offset (cut (fuel + 1) [] (c :: cs)) =
          (name, offset) :: tagsOf (offset + byteLength front) (cut fuel [] rest)) := by
  obtain ⟨raw, rest, hraw, hdrop, hcut⟩ := cut_cons fuel c cs
  let chars := (c :: cs).take (segmentAt (c :: cs)).2
  have behind : tagsOf (offset + byteLength chars) (raw ++ cut fuel [] rest) =
      tagsOf (offset + byteLength (chars ++ raw.flatMap Segment.chars)) (cut fuel [] rest) := by
    rw [tagsOf_append, tagsOf_raw hraw, List.nil_append, byteLength_append, Nat.add_assoc]
  refine ⟨chars ++ raw.flatMap Segment.chars, rest, ?_, ?_⟩
  · rw [List.append_assoc, ← hdrop, List.take_append_drop]
  · rw [hcut, tagsOf]
    split
    · rename_i name selfClosing hkind
      obtain ⟨opens, hpos⟩ := opens_of_segmentAt hkind
      refine Or.inr ⟨name, opens, ?_, congrArg ((name, offset) :: ·) behind⟩
      have some_chars : chars ≠ [] := by
        simp only [chars, ne_eq, List.take_eq_nil_iff, reduceCtorEq, or_false]
        omega
      exact fun h => some_chars (List.append_eq_nil_iff.mp h).1
    · exact Or.inl behind

/-- Every reported tag stands where the source opens it. -/
theorem opens_of_mem_tagsOf {offset fuel : Nat} {cs : List Char} {name : String} {o : Nat}
    (h : (name, o) ∈ tagsOf offset (cut fuel [] cs)) :
    ∃ before rest, cs = before ++ rest ∧ o = offset + byteLength before ∧ Opens name rest := by
  induction fuel generalizing offset cs with
  | zero => simp [cut, tagsOf] at h
  | succ fuel ih =>
    cases cs with
    | nil => simp [cut, tagsOf] at h
    | cons c cs =>
      obtain ⟨front, rest, split, tags⟩ := tagsOf_cut offset fuel c cs
      have later : (name, o) ∈ tagsOf (offset + byteLength front) (cut fuel [] rest) →
          ∃ before rest, c :: cs = before ++ rest ∧ o = offset + byteLength before ∧ Opens name rest := by
        intro h
        obtain ⟨before, rest', rfl, ho, opens⟩ := ih h
        exact ⟨front ++ before, rest', by rw [split, List.append_assoc], by rw [ho, byteLength_append, Nat.add_assoc],
          opens⟩
      rcases tags with tags | ⟨first, opens, -, tags⟩
      · exact later (tags ▸ h)
      · rw [tags, List.mem_cons] at h
        rcases h with h | h
        · obtain ⟨rfl, rfl⟩ := Prod.mk.inj h
          exact ⟨[], c :: cs, rfl, rfl, opens⟩
        · exact later h

theorem le_of_mem_tagsOf {offset : Nat} {ss : List Segment} {x : String × Nat} (h : x ∈ tagsOf offset ss) :
    offset ≤ x.2 := by
  induction ss generalizing offset with
  | nil => cases h
  | cons s ss ih =>
    rw [tagsOf] at h
    split at h
    · rcases List.mem_cons.mp h with rfl | h
      · exact Nat.le_refl _
      · exact Nat.le_of_add_right_le (ih h)
    · exact Nat.le_of_add_right_le (ih h)

/-- The offsets of the reported tags ascend. -/
theorem pairwise_tagsOf (offset fuel : Nat) (cs : List Char) :
    (tagsOf offset (cut fuel [] cs)).Pairwise fun x y => x.2 < y.2 := by
  induction fuel generalizing offset cs with
  | zero => exact .nil
  | succ fuel ih =>
    cases cs with
    | nil => exact .nil
    | cons c cs =>
      obtain ⟨front, rest, -, tags | ⟨name, -, nonempty, tags⟩⟩ := tagsOf_cut offset fuel c cs
      · rw [tags]
        exact ih _ _
      · rw [tags]
        refine .cons (fun x hx => ?_) (ih _ _)
        have := le_of_mem_tagsOf hx
        have := byteLength_pos nonempty
        show offset < x.2
        omega

end Pagewalk.Source
