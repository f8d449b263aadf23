import Mathlib.Tactic.SplitIfs
import Pagewalk.Markup.Lexer.Step
import Pagewalk.Proofs.Source.Segmentation

/-!
# Where comments end

Right behind `<!--` a `>` or a `->` ends a comment; otherwise the first `-->` or `--!>` does, or the end of the text. The
lexer of markup reads a comment in states that know how much of such a mark was read, and ends it there. The scan of a
source searches for `-->` alone, so behind a `--!>` it takes all up to the next `-->` for a part of the comment.
-/

namespace Pagewalk

/-! ### The end of a comment -/

namespace Source

/-- A mark that ends a comment stands here. -/
def ClosesComment (cs : List Char) : Prop := "-->".toList <+: cs ∨ "--!>".toList <+: cs

/-- The text goes through the first mark that ends a comment; there is none behind it if it goes to the end without. -/
def Finishes (inside behind : List Char) : Prop :=
  ∃ body close, inside = body ++ close ∧ UpTo ClosesComment body (close ++ behind) ∧
    (close = "-->".toList ∨ close = "--!>".toList ∨ close = [] ∧ behind = [])

/-- What stands behind the `<!--` of a comment, through the end of the comment. -/
def EndsComment (inside behind : List Char) : Prop :=
  inside = ">".toList ∨ inside = "->".toList ∨
    ¬ ">".toList <+: inside ++ behind ∧ ¬ "->".toList <+: inside ++ behind ∧ Finishes inside behind

/-- The text before this rest goes through the first mark that ends a comment. -/
def Closing (cs rest : List Char) : Prop := ∃ inside, cs = inside ++ rest ∧ Finishes inside rest

section Closing
variable {c : Char} {cs rest front : List Char}

theorem closesComment_iff :
    ClosesComment cs ↔ (∃ rest, cs = '-' :: '-' :: '>' :: rest) ∨ ∃ rest, cs = '-' :: '-' :: '!' :: '>' :: rest := by
  constructor
  · rintro (⟨rest, rfl⟩ | ⟨rest, rfl⟩)
    · exact .inl ⟨rest, rfl⟩
    · exact .inr ⟨rest, rfl⟩
  · rintro (⟨rest, rfl⟩ | ⟨rest, rfl⟩)
    · exact .inl ⟨rest, rfl⟩
    · exact .inr ⟨rest, rfl⟩

theorem closing_cons_iff (other : ¬ ClosesComment (c :: cs)) : Closing (c :: cs) rest ↔ Closing cs rest := by
  constructor
  · rintro ⟨inside, eq, body, close, rfl, upTo, ends⟩
    cases body with
    | nil =>
      rw [List.nil_append] at eq
      rcases ends with rfl | rfl | ⟨rfl, rfl⟩
      · exact absurd (.inl ⟨rest, eq.symm⟩) other
      · exact absurd (.inr ⟨rest, eq.symm⟩) other
      · cases eq
    | cons d body =>
      obtain ⟨rfl, rfl⟩ := List.cons.inj eq
      exact ⟨body ++ close, rfl, body, close, rfl, (upTo_cons.mp upTo).2, ends⟩
  · rintro ⟨inside, rfl, body, close, rfl, upTo, ends⟩
    rw [List.append_assoc] at other
    exact ⟨c :: (body ++ close), rfl, c :: body, close, rfl, upTo_cons.mpr ⟨other, upTo⟩, ends⟩

theorem Closing.tail (h : Closing (c :: cs) rest) (other : c ≠ '-') : Closing cs rest := by
  refine (closing_cons_iff fun here => ?_).mp h
  rcases closesComment_iff.mp here with ⟨_, eq⟩ | ⟨_, eq⟩ <;> exact other (List.cons.inj eq).1

theorem Closing.afterDash (h : Closing ('-' :: c :: cs) rest) (other : c ≠ '-') : Closing cs rest := by
  simpa [closing_cons_iff, closesComment_iff, other] using h

theorem Closing.eq_of_closes (h : Closing cs rest) (here : ClosesComment cs) :
    cs = "-->".toList ++ rest ∨ cs = "--!>".toList ++ rest := by
  obtain ⟨inside, rfl, body, close, rfl, upTo, ends⟩ := h
  cases body with
  | nil =>
    rcases ends with rfl | rfl | ⟨rfl, rfl⟩
    · exact .inl rfl
    · exact .inr rfl
    · rcases closesComment_iff.mp here with ⟨_, no⟩ | ⟨_, no⟩ <;> cases no
  | cons d body =>
    rw [List.append_assoc] at here
    exact absurd here (upTo_cons.mp upTo).1

theorem eq_of_arrow (h : Closing ('-' :: '-' :: '>' :: cs) rest) : rest = cs := by
  rcases h.eq_of_closes (.inl ⟨cs, rfl⟩) with eq | eq <;> cases eq
  rfl

theorem eq_of_bang (h : Closing ('-' :: '-' :: '!' :: '>' :: cs) rest) : rest = cs := by
  rcases h.eq_of_closes (.inr ⟨cs, rfl⟩) with eq | eq <;> cases eq
  rfl

theorem exists_closing (cs : List Char) : ∃ rest, Closing cs rest := by
  obtain ⟨body, back, rfl, upTo⟩ := exists_upTo ClosesComment cs
  rcases upTo.2 with rfl | ⟨rest, rfl⟩ | ⟨rest, rfl⟩
  · exact ⟨[], body, rfl, body, [], (List.append_nil _).symm, upTo, .inr (.inr ⟨rfl, rfl⟩)⟩
  · exact ⟨rest, body ++ "-->".toList, by rw [List.append_assoc], body, _, rfl, upTo, .inl rfl⟩
  · exact ⟨rest, body ++ "--!>".toList, by rw [List.append_assoc], body, _, rfl, upTo, .inr (.inl rfl)⟩

end Closing

end Source

/-! ### The states of a comment -/

namespace Markup

/-- How much of a mark that ends a comment was read in a state, the states at the start of a comment apart. -/
def LexState.front? : LexState → Option (List Char)
  | .comment | .commentLess | .commentLessBang => some []
  | .commentLessBangDash | .commentEndDash => some ['-']
  | .commentLessBangDashDash | .commentEnd => some ['-', '-']
  | .commentEndBang => some ['-', '-', '!']
  | _ => none

/-- By how many states at most a character is looked at that is left over to this one. -/
def LexState.load : LexState → Nat
  | .comment | .commentEndDash => 1
  | .commentEnd => 2
  | _ => 3

theorem LexState.load_pos (s : LexState) : 0 < s.load := by
  cases s <;> exact Nat.zero_lt_succ _

theorem LexState.load_le (s : LexState) : s.load ≤ 3 := by
  unfold load
  split <;> decide

namespace Lexer
open Source

/-- One step, or one state towards the end where the text is used up. -/
def advance (l : Lexer) (foreign : Bool) (input : List Char) : Option (Lexer × List Char × List Item) :=
  (l.step foreign input).or (l.stopStep.map fun (l, items) => (l, [], items))

/-- How often at most the character that is held back is left over yet. -/
def load (l : Lexer) : Nat := l.held.elim 0 fun _ => l.state.load

/-- What the lexer gives next, faults apart, is a comment, and this rest is left behind it. -/
inductive GivesComment (foreign : Bool) : Lexer → List Char → List Char → Prop
  | given {l l' : Lexer} {input rest : List Char} {items : List Item} {text : String}
      (step : l.advance foreign input = some (l', rest, items)) (comment : .comment text ∈ items) :
      GivesComment foreign l input rest
  | later {l l' : Lexer} {input middle rest : List Char} {items : List Item}
      (step : l.advance foreign input = some (l', middle, items)) (faults : ∀ i ∈ items, ∃ f, i = .fault f)
      (more : GivesComment foreign l' middle rest) : GivesComment foreign l input rest

/-- The lexer stands in a comment that ends before a rest. Right after a carriage return nothing of a mark was read. -/
def InComment (l : Lexer) (input rest : List Char) : Prop :=
  ∃ front, l.state.front? = some front ∧ Closing (front ++ (l.held.toList ++ input)) rest ∧
    (l.skipLineFeed = true → (l.held = none → front = []) ∧ ∀ c ∈ l.held, c = '\n')

section Reading
variable {l m : Lexer} {c : Char} {front input rest cs : List Char} {foreign : Bool}

theorem GivesComment.unique {rest' : List Char} (h : GivesComment foreign l input rest)
    (h' : GivesComment foreign l input rest') : rest = rest' := by
  induction h with
  | given step comment =>
    cases h' with
    | given step' _ =>
      rw [step] at step'
      cases step'
      rfl
    | later step' faults _ =>
      rw [step] at step'
      cases step'
      obtain ⟨_, no⟩ := faults _ comment
      cases no
  | later step faults _ ih =>
    cases h' with
    | given step' comment =>
      rw [step] at step'
      cases step'
      obtain ⟨_, no⟩ := faults _ comment
      cases no
    | later step' _ more =>
      rw [step] at step'
      cases step'
      exact ih more

/-- A character of no mark ends whatever was read of one. -/
theorem closing_front_iff (h : l.state.front? = some front) (dash : c ≠ '-') (bang : c ≠ '!') (angle : c ≠ '>') :
    Closing (front ++ c :: cs) rest ↔ Closing cs rest := by
  cases hs : l.state <;> rw [hs] at h <;> simp only [LexState.front?, Option.some.injEq, reduceCtorEq] at h <;> subst h <;>
    simp [closing_cons_iff, closesComment_iff, dash, bang, angle]

theorem eq_nil_of_front (h : l.state.front? = some front) (closing : Closing front rest) : rest = [] := by
  have whole : Closing [] rest := by
    cases hs : l.state <;> rw [hs] at h <;> simp only [LexState.front?, Option.some.injEq, reduceCtorEq] at h <;>
      subst h <;> simpa [closing_cons_iff, closesComment_iff] using closing
  obtain ⟨inside, eq, -⟩ := whole
  exact (List.append_eq_nil_iff.mp eq.symm).2

theorem step_in_comment (h : l.state.front? = some front) : l.step foreign input = l.charStep input := by
  unfold step
  cases hs : l.state <;> simp_all [LexState.front?]

/-- An answer to a character in a comment: it gives the comment, or the lexer stands in the comment further on. A character
that is left over goes to a state that leaves it less often. -/
def Carries (l : Lexer) (cs rest : List Char) (r : Lexer × List Item) : Prop :=
  (∃ text, .comment text ∈ r.2) ∧ rest = cs ∨
    (∀ i ∈ r.2, ∃ f, i = .fault f) ∧ InComment r.1 cs rest ∧ r.1.load < l.state.load

theorem carries_given {r : Lexer × List Item} (comment : ∃ text, .comment text ∈ r.2) (last : rest = cs) :
    Carries l cs rest r := .inl ⟨comment, last⟩

theorem carries_taken {r : Lexer × List Item} (faults : ∀ i ∈ r.2, ∃ f, i = .fault f)
    (state : r.1.state.front? = some front) (free : r.1.held = none) (skip : r.1.skipLineFeed = true → front = [])
    (closing : Closing (front ++ cs) rest) : Carries l cs rest r := by
  refine .inr ⟨faults, ⟨front, state, by rwa [free], fun h => ⟨fun _ => skip h, by rw [free]; nofun⟩⟩, ?_⟩
  rw [load, free]
  exact l.state.load_pos

theorem carries_left {r : Lexer × List Item} (faults : ∀ i ∈ r.2, ∃ f, i = .fault f)
    (state : r.1.state.front? = some front) (held : r.1.held = some c) (skip : r.1.skipLineFeed = true → c = '\n')
    (closing : Closing (front ++ c :: cs) rest) (less : r.1.state.load < l.state.load) : Carries l cs rest r := by
  refine .inr ⟨faults, ⟨front, state, by rwa [held], fun h => ⟨by rw [held]; nofun, ?_⟩⟩, by rwa [load, held]⟩
  rw [held]
  rintro d ⟨⟩
  exact skip h

/-- What a character does to a lexer in a comment. -/
theorem carries_onChar (state : l.state.front? = some front) (free : l.held = none)
    (closing : Closing (front ++ c :: cs) rest) (skip : l.skipLineFeed = true → c = '\n') :
    Carries l cs rest (l.onChar c) := by
  cases hs : l.state <;> rw [hs] at state <;> simp only [LexState.front?, Option.some.injEq, reduceCtorEq] at state <;>
    subst state
  case comment =>
    simp only [onChar, hs, onComment, beq_iff_eq]
    split_ifs with less dash nul
    · exact carries_taken (by simp) rfl free (fun _ => rfl) (closing.tail (by simp [less]))
    · exact carries_taken (by simp) rfl free (by simp_all [goTo]) (dash ▸ closing)
    · exact carries_taken (by simp [nulInComment]) rfl free (fun _ => rfl) (closing.tail dash)
    · exact carries_taken (by simp) rfl free (fun _ => rfl) (closing.tail dash)
  case commentLess =>
    simp only [onChar, hs, onCommentLess, beq_iff_eq]
    split_ifs with bang less
    · exact carries_taken (by simp) rfl free (fun _ => rfl) (closing.tail (by simp [bang]))
    · exact carries_taken (by simp) (congrArg _ hs) free (fun _ => rfl) (closing.tail (by simp [less]))
    · exact carries_left (by simp) rfl rfl skip closing (by simp [hs, leave, LexState.load])
  case commentLessBang =>
    simp only [onChar, hs, beq_iff_eq]
    split_ifs with dash
    · exact carries_taken (by simp) rfl free (by simp_all [goTo]) (dash ▸ closing)
    · exact carries_left (by simp) rfl rfl skip closing (by simp [hs, leave, LexState.load])
  case commentLessBangDash =>
    simp only [onChar, hs, beq_iff_eq]
    split_ifs with dash
    · exact carries_taken (by simp) rfl free (by simp_all [goTo]) (dash ▸ closing)
    · exact carries_left (by simp) rfl rfl skip closing (by simp [hs, leave, LexState.load])
  case commentLessBangDashDash =>
    simp only [onChar, hs]
    exact carries_left (by split <;> simp [bad]) rfl rfl skip closing (by simp [hs, leave, LexState.load])
  case commentEndDash =>
    simp only [onChar, hs, onCommentEndDash, beq_iff_eq]
    split_ifs with dash nul
    · exact carries_taken (by simp) rfl free (by simp_all [goTo]) (dash ▸ closing)
    · exact carries_taken (by simp [nulInComment]) rfl free (fun _ => rfl) (closing.afterDash dash)
    · exact carries_taken (by simp) rfl free (fun _ => rfl) (closing.afterDash dash)
  case commentEnd =>
    simp only [onChar, hs, onCommentEnd, beq_iff_eq]
    split_ifs with angle bang dash
    · exact carries_given ⟨l.comment, by simp [giveComment]⟩ (eq_of_arrow (angle ▸ closing))
    · exact carries_taken (by simp) rfl free (by simp_all [goTo]) (bang ▸ closing)
    · refine carries_taken (by simp) (congrArg _ hs) free (by simp_all [addComment]) ?_
      simpa [closing_cons_iff, closesComment_iff, dash] using closing
    · refine carries_left (by simp) rfl rfl skip ?_ (by simp [hs, leave, LexState.load])
      simpa [closing_cons_iff, closesComment_iff, angle, bang, dash] using closing
  case commentEndBang =>
    simp only [onChar, hs, onCommentEndBang, beq_iff_eq]
    split_ifs with dash angle nul
    · refine carries_taken (by simp) rfl free (by simp_all [goTo, addComment]) ?_
      simpa [closing_cons_iff, closesComment_iff, dash] using closing
    · exact carries_given ⟨l.comment, by simp [giveComment]⟩ (eq_of_bang (angle ▸ closing))
    · refine carries_taken (by simp [nulInComment]) rfl free (fun _ => rfl) ?_
      simpa [closing_cons_iff, closesComment_iff, dash, angle] using closing
    · refine carries_taken (by simp) rfl free (fun _ => rfl) ?_
      simpa [closing_cons_iff, closesComment_iff, dash, angle] using closing

/-! ### Reading a comment -/

theorem next_nil (free : l.held = none) : l.next [] = none := by
  simp [next, free]

theorem free_of_spent (spent : l.next input = none) : l.held = none := by
  cases held : l.held with
  | none => rfl
  | some c => simp [next, held] at spent

/-- A line feed that is to be skipped is no character for the lexer. -/
theorem next_skip (free : l.held = none) (skip : l.skipLineFeed = true) :
    l.next ('\n' :: cs) = ({ l.pass 1 with skipLineFeed := false } : Lexer).next cs := by
  simp [next, free, skip, pass]

theorem next_cons (free : l.held = none) (other : l.skipLineFeed = true → c ≠ '\n') :
    l.next (c :: cs) =
      some (if c = '\r' then '\n' else c, { l.pass 1 with skipLineFeed := c == '\r' }, cs) := by
  by_cases skip : l.skipLineFeed = true
  · by_cases cr : c = '\r'
    · simp [next, free, skip, cr]
    · simp [next, free, skip, cr, other skip]
  · by_cases cr : c = '\r'
    · simp [next, free, skip, cr]
    · simp [next, free, skip, cr]

/-- Takes the next character for a lexer that has read this much of a mark in a comment; there is none at its end. -/
def Reads (l : Lexer) (front input rest : List Char) : Prop :=
  l.next input = none ∧ rest = [] ∨ ∃ c m more, l.next input = some (c, m, more) ∧ m.state = l.state ∧ m.held = none ∧
    Closing (front ++ c :: more) rest ∧ (m.skipLineFeed = true → c = '\n') ∧
    (more.length < input.length ∨ more = input ∧ l.held.isSome)

theorem reads_of_free (state : l.state.front? = some front) (free : l.held = none) (closing : Closing (front ++ input) rest)
    (other : l.skipLineFeed = true → input.head? ≠ some '\n') : Reads l front input rest := by
  cases input with
  | nil => exact .inl ⟨next_nil free, eq_nil_of_front state (List.append_nil front ▸ closing)⟩
  | cons c cs =>
    refine .inr ⟨_, _, cs, next_cons free fun h => ?_, rfl, free, ?_, ?_, .inl (Nat.lt_succ_self _)⟩
    · exact fun same => other h (congrArg some same)
    · split
      · rename_i cr
        rw [cr, closing_front_iff state (by decide) (by decide) (by decide)] at closing
        exact (closing_front_iff state (by decide) (by decide) (by decide)).mpr closing
      · exact closing
    · intro cr
      rw [if_pos (beq_iff_eq.mp cr)]

/-- A lexer in a comment reads on. A line feed that is skipped is none of a mark, for nothing of one was read. -/
theorem reads_in_comment (h : InComment l input rest) :
    ∃ front, l.state.front? = some front ∧ Reads l front input rest := by
  obtain ⟨front, state, closing, skip⟩ := h
  refine ⟨front, state, ?_⟩
  cases held : l.held with
  | some c =>
    rw [held] at closing skip
    exact .inr ⟨c, { l with held := none }, input, by simp [next, held], rfl, rfl, closing, fun h => (skip h).2 c rfl,
      .inr ⟨rfl, by rw [held]; rfl⟩⟩
  | none =>
    rw [held, Option.toList_none, List.nil_append] at closing
    by_cases skipped : l.skipLineFeed = true ∧ input.head? = some '\n'
    · obtain ⟨after, feed⟩ := skipped
      obtain ⟨cs, rfl⟩ := List.head?_eq_some_iff.mp feed
      obtain rfl := (skip after).1 held
      have reads : Reads { l.pass 1 with skipLineFeed := false } [] cs rest :=
        reads_of_free state held (closing.tail (by decide)) nofun
      rw [Reads, next_skip held after]
      rcases reads with spent | ⟨c, m, more, next, same, free, closing, feed, less | ⟨-, no⟩⟩
      · exact .inl spent
      · exact .inr ⟨c, m, more, next, same, free, closing, feed, .inl (Nat.lt_succ_of_lt less)⟩
      · simp [pass, held] at no
    · exact reads_of_free state held closing fun h feed => skipped ⟨h, feed⟩

/-- Where the text is used up the comment that the lexer stands in ends. -/
theorem gives_at_stop (state : l.state.front? = some front) (spent : l.next input = none) :
    GivesComment foreign l input [] := by
  have stops {l : Lexer} {front input : List Char} (state : l.state.front? = some front) (spent : l.next input = none) :
      l.advance foreign input = l.stopStep.map fun (l, items) => (l, [], items) := by
    rw [advance, step_in_comment state, charStep, spent]
    rfl
  have ends {l : Lexer} {input : List Char} (spent : l.next input = none)
      (last : l.state = .comment ∨ l.state = .commentEndDash ∨ l.state = .commentEnd ∨ l.state = .commentEndBang) :
      GivesComment foreign l input [] := by
    have answer : l.stopStep = some (l.giveComment.1, .fault .endOfInput :: l.giveComment.2) := by
      rcases last with hs | hs | hs | hs <;> simp [stopStep, hs]
    have state : ∃ front, l.state.front? = some front := by
      rcases last with hs | hs | hs | hs <;> rw [hs] <;> exact ⟨_, rfl⟩
    have given : Item.comment l.comment ∈ .fault .endOfInput :: l.giveComment.2 := by simp [giveComment]
    exact .given ((stops state.choose_spec spent).trans (congrArg _ answer)) given
  have free := free_of_spent spent
  -- The states behind a less-than sign come to their end in one of these.
  have passes {s : LexState} (answer : l.stopStep = some (l.goTo s, []))
      (last : s = .comment ∨ s = .commentEndDash ∨ s = .commentEnd ∨ s = .commentEndBang) :
      GivesComment foreign l input [] :=
    .later ((stops state spent).trans (congrArg _ answer)) (by simp) (ends (next_nil free) last)
  cases hs : l.state <;> rw [hs] at state <;> simp only [LexState.front?, reduceCtorEq] at state
  case comment | commentEndDash | commentEnd | commentEndBang => exact ends spent (by simp [hs])
  case commentLess | commentLessBang => exact passes (by simp only [stopStep, hs]) (.inl rfl)
  case commentLessBangDash => exact passes (by simp only [stopStep, hs]) (.inr (.inl rfl))
  case commentLessBangDashDash => exact passes (by simp only [stopStep, hs]) (.inr (.inr (.inl rfl)))

/-- The lexer gives the comment in which it stands. -/
theorem gives_of_inComment (h : InComment l input rest) : GivesComment foreign l input rest := by
  -- Each step takes a character of the text, or one left over, which is left over less often then.
  induction measure : 4 * input.length + l.load using Nat.strongRecOn generalizing l input with
  | ind n ih =>
    obtain ⟨front, state, ⟨spent, rfl⟩ | ⟨c, m, more, next, same, free, closing, feed, taken⟩⟩ := reads_in_comment h
    · exact gives_at_stop state spent
    · have step : l.advance foreign input = some ((m.onChar c).1, more, (m.onChar c).2) := by
        rw [advance, step_in_comment state, charStep, next]
        rfl
      rcases carries_onChar (same ▸ state) free closing feed with ⟨⟨text, comment⟩, rfl⟩ | ⟨faults, inside, less⟩
      · exact .given step comment
      · refine .later step faults (ih _ ?_ inside rfl)
        rw [same] at less
        have bound := l.state.load_le
        rcases taken with shorter | ⟨rfl, some⟩
        · omega
        · obtain ⟨d, held⟩ := Option.isSome_iff_exists.mp some
          have whole : l.load = l.state.load := by rw [load, held]; rfl
          omega

/-! ### The start of a comment -/

theorem gives_of_carries {m : Lexer} {r : Lexer × List Item} (step : l.advance foreign input = some (r.1, cs, r.2))
    (carries : Carries m cs rest r) : GivesComment foreign l input rest := by
  rcases carries with ⟨⟨text, comment⟩, rfl⟩ | ⟨faults, inside, -⟩
  · exact .given step comment
  · exact .later step faults (gives_of_inComment inside)

theorem advance_cons (foreign : Bool) (c : Char) (cs : List Char)
    (start : l.state = .commentStart ∨ l.state = .commentStartDash) (free : l.held = none)
    (feed : l.skipLineFeed = false) :
    ∃ m : Lexer, m.state = l.state ∧ m.held = none ∧ (m.skipLineFeed = true → c = '\r') ∧
      l.advance foreign (c :: cs) = some ((m.onChar (if c = '\r' then '\n' else c)).1, cs,
        (m.onChar (if c = '\r' then '\n' else c)).2) := by
  refine ⟨{ l.pass 1 with skipLineFeed := c == '\r' }, rfl, free, beq_iff_eq.mp, ?_⟩
  have step : l.step foreign (c :: cs) = l.charStep (c :: cs) := by
    rcases start with hs | hs <;> simp only [step, hs]
  rw [advance, step, charStep, next_cons free (by simp [feed])]
  rfl

theorem gives_at_start (start : l.state = .commentStart ∨ l.state = .commentStartDash) (free : l.held = none) :
    GivesComment foreign l [] [] := by
  have answer : l.advance foreign [] = some (l.giveComment.1, [], .fault .endOfInput :: l.giveComment.2) := by
    rcases start with hs | hs <;> simp [advance, step, charStep, next_nil free, stopStep, hs]
  have given : Item.comment l.comment ∈ .fault .endOfInput :: l.giveComment.2 := by simp [giveComment]
  exact .given answer given

/-- A `>` right behind the opening of a comment, or behind the dash there, ends it. -/
theorem gives_at_angle (start : l.state = .commentStart ∨ l.state = .commentStartDash) (free : l.held = none)
    (feed : l.skipLineFeed = false) : GivesComment foreign l ('>' :: cs) cs := by
  obtain ⟨m, same, -, -, step⟩ := advance_cons foreign '>' cs start free feed
  have given : Item.comment m.comment ∈ (m.onChar '>').2 := by
    rcases start with hs | hs <;> simp [onChar, same, hs, onCommentStart, onCommentStartDash, giveComment]
  exact .given step given

theorem carries_onStart (start : l.state = .commentStart) (free : l.held = none) (dash : c ≠ '-') (angle : c ≠ '>')
    (closing : Closing cs rest) : Carries m cs rest (l.onChar c) := by
  simp only [onChar, start, onCommentStart, beq_iff_eq, dash, angle, if_false]
  split_ifs with nul
  · exact carries_taken (by simp [nulInComment]) rfl free (fun _ => rfl) closing
  · exact carries_taken (by simp) rfl free (fun _ => rfl) closing

/-- The dash behind the opening of a comment belongs to a mark as any other. -/
theorem carries_onStartDash (start : l.state = .commentStartDash) (free : l.held = none)
    (feed : l.skipLineFeed = true → c = '\n') (angle : c ≠ '>') (closing : Closing ('-' :: c :: cs) rest) :
    Carries m cs rest (l.onChar c) := by
  simp only [onChar, start, onCommentStartDash, beq_iff_eq, angle, if_false]
  split_ifs with dash nul
  · exact carries_taken (by simp) rfl free (by simp_all [goTo]) (dash ▸ closing)
  · exact carries_taken (by simp [nulInComment]) rfl free (fun _ => rfl) (closing.afterDash dash)
  · exact carries_taken (by simp) rfl free (fun _ => rfl) (closing.afterDash dash)

theorem gives_behind_dash (start : l.state = .commentStartDash) (free : l.held = none) (feed : l.skipLineFeed = false)
    (angle : ¬ ">".toList <+: cs) (closing : Closing ('-' :: cs) rest) : GivesComment foreign l cs rest := by
  cases cs with
  | nil =>
    obtain rfl := eq_nil_of_front (l := { l with state := .commentEndDash }) rfl closing
    exact gives_at_start (.inr start) free
  | cons c cs =>
    obtain ⟨m, same, free', feed', step⟩ := advance_cons foreign c cs (.inr start) free feed
    refine gives_of_carries (m := m) step (carries_onStartDash (same.trans start) free' ?_ ?_ ?_)
    · exact fun h => if_pos (feed' h)
    · split
      · decide
      · rintro rfl
        exact angle ⟨cs, rfl⟩
    · split
      · rename_i cr
        subst cr
        simpa [closing_cons_iff, closesComment_iff] using closing
      · exact closing

/-- The lexer gives a comment from its opening on. -/
theorem gives_of_endsComment {inside behind : List Char} (start : l.state = .commentStart) (free : l.held = none)
    (feed : l.skipLineFeed = false) (ends : EndsComment inside behind) :
    GivesComment foreign l (inside ++ behind) behind := by
  have dashed (cs : List Char) : ∃ m : Lexer, m.state = .commentStartDash ∧ m.held = none ∧ m.skipLineFeed = false ∧
      l.advance foreign ('-' :: cs) = some (m, cs, []) := by
    obtain ⟨m, same, free', feed', step⟩ := advance_cons foreign '-' cs (.inl start) free feed
    refine ⟨m.goTo .commentStartDash, rfl, free', Bool.eq_false_iff.mpr fun h => absurd (feed' h) (by decide), ?_⟩
    rw [step]
    simp [onChar, same, start, onCommentStart]
  rcases ends with rfl | rfl | ⟨angle, dash, finishes⟩
  · exact gives_at_angle (.inl start) free feed
  · obtain ⟨m, start', free', feed', step⟩ := dashed ('>' :: behind)
    exact .later step nofun (gives_at_angle (.inr start') free' feed')
  · have closing : Closing (inside ++ behind) behind := ⟨inside, rfl, finishes⟩
    generalize inside ++ behind = cs at angle dash closing
    cases cs with
    | nil =>
      obtain rfl := eq_nil_of_front (l := { l with state := .comment }) rfl closing
      exact gives_at_start (.inl start) free
    | cons c cs =>
      by_cases first : c = '-'
      · subst first
        obtain ⟨m, start', free', feed', step⟩ := dashed cs
        refine .later step nofun (gives_behind_dash start' free' feed' ?_ closing)
        rintro ⟨more, rfl⟩
        exact dash ⟨more, rfl⟩
      · obtain ⟨m, same, free', -, step⟩ := advance_cons foreign c cs (.inl start) free feed
        refine gives_of_carries (m := m) step (carries_onStart (same.trans start) free' ?_ ?_ (closing.tail first))
        · split <;> simp_all
        · split
          · decide
          · rintro rfl
            exact angle ⟨cs, rfl⟩

theorem advance_data (foreign : Bool) (cs : List Char) (ordinary : l.state = .data) (free : l.held = none) :
    ∃ m : Lexer, m.state = .tagOpen ∧ m.held = none ∧ m.skipLineFeed = false ∧
      l.advance foreign ('<' :: cs) = some (m, cs, []) := by
  refine ⟨({ l.pass 1 with skipLineFeed := false } : Lexer).goTo .tagOpen, rfl, free, rfl, ?_⟩
  -- No run of plain characters begins with a less-than sign, however far one may go.
  have run : ((if l.ahead == 0 then '<' :: cs else ('<' :: cs).take l.ahead).takeWhile
      fun c => !(['\r', '\x00', '&', '<', '\n'].contains c)) = [] := by
    split
    · rfl
    · rename_i some
      obtain ⟨n, hn⟩ := Nat.exists_eq_add_one_of_ne_zero (n := l.ahead) (by simpa using some)
      rw [hn]
      rfl
  have next : l.next ('<' :: cs) = some ('<', { l.pass 1 with skipLineFeed := false }, cs) := next_cons free (by simp)
  have piece : l.nextPiece ['\r', '\x00', '&', '<', '\n'] ('<' :: cs) =
      some (.char '<', { l.pass 1 with skipLineFeed := false }, cs) := by
    simp only [nextPiece, run, next]
    split <;> rfl
  rw [advance, step, ordinary]
  simp only [dataStep, piece]
  rfl

theorem advance_tagOpen (foreign : Bool) (cs : List Char) (state : l.state = .tagOpen) (free : l.held = none)
    (feed : l.skipLineFeed = false) :
    ∃ m : Lexer, m.state = .declaration ∧ m.held = none ∧ m.skipLineFeed = false ∧
      l.advance foreign ('!' :: cs) = some (m, cs, []) := by
  refine ⟨({ l.pass 1 with skipLineFeed := false } : Lexer).goTo .declaration, rfl, free, rfl, ?_⟩
  have step : l.step foreign ('!' :: cs) = l.charStep ('!' :: cs) := by simp only [step, state]
  rw [advance, step, charStep, next_cons free (by simp [feed])]
  simp only [onChar, pass, state]
  rfl

theorem advance_declaration (foreign : Bool) (cs : List Char) (state : l.state = .declaration) (free : l.held = none)
    (feed : l.skipLineFeed = false) :
    ∃ m : Lexer, m.state = .commentStart ∧ m.held = none ∧ m.skipLineFeed = false ∧
      l.advance foreign ('-' :: '-' :: cs) = some (m, cs, []) := by
  refine ⟨({ l with comment := "" } : Lexer).goTo .commentStart, rfl, free, feed, ?_⟩
  rw [advance, step, state]
  unfold declarationStep take?
  simp only [feed]
  rfl

/-- In ordinary text the lexer gives the comment that begins with `<!--`. -/
theorem gives_in_data {inside behind : List Char} (ordinary : l.state = .data) (free : l.held = none)
    (ends : EndsComment inside behind) : GivesComment foreign l ("<!--".toList ++ (inside ++ behind)) behind := by
  obtain ⟨m, state, free, feed, step⟩ := advance_data foreign ("!--".toList ++ (inside ++ behind)) ordinary free
  obtain ⟨m', state', free', feed', step'⟩ := advance_tagOpen foreign ("--".toList ++ (inside ++ behind)) state free feed
  obtain ⟨m'', start, free'', feed'', step''⟩ := advance_declaration foreign (inside ++ behind) state' free' feed'
  exact .later step nofun (.later step' nofun (.later step'' nofun (gives_of_endsComment start free'' feed'' ends)))

end Reading

end Lexer

end Markup

/-! ### What the scan takes for a comment -/

namespace Source
open Markup

section Scan
variable {p q : List Char → Prop} {front more back inside behind : List Char}

theorem UpTo.extend (h : UpTo q front (more ++ back)) (weaker : ∀ cs, p cs → q cs) (further : UpTo p more back) :
    UpTo p (front ++ more) back := by
  induction front with
  | nil => exact further
  | cons c front ih =>
    obtain ⟨first, later⟩ := upTo_cons.mp h
    rw [← List.append_assoc] at first
    exact upTo_cons.mpr ⟨fun here => first (weaker _ here), ih later⟩

/-- Behind a comment that ends in `--!>` all up to the next `-->` is hidden from the scan, and nothing behind another. -/
theorem exists_hidden (h : EndsComment inside behind) : ∃ hidden rest, behind = hidden ++ rest ∧
    IsComment ("<!--".toList ++ (inside ++ hidden)) rest ∧ (hidden = [] ↔ ("--!>".toList <:+ inside → behind = [])) ∧
    (hidden ≠ [] → ∃ body close, hidden = body ++ close ∧ ClosedBy "-->" body close rest) := by
  obtain rfl | rfl | ⟨angle, dash, body, close, rfl, upTo, ends⟩ := h
  · refine ⟨[], behind, rfl, .inl rfl, iff_of_true rfl fun no => ?_, nofun⟩
    exact absurd no (by decide)
  · refine ⟨[], behind, rfl, .inr (.inl rfl), iff_of_true rfl fun no => ?_, nofun⟩
    exact absurd no (by decide)
  · simp only [List.append_assoc] at angle dash
    rcases ends with rfl | rfl | ⟨rfl, rfl⟩
    · refine ⟨[], behind, rfl, .inr (.inr ⟨body, _, by simp, angle, dash, ⟨?_, .inr ⟨behind, rfl⟩⟩, .inl rfl⟩),
        iff_of_true rfl ?_, fun no => absurd rfl no⟩
      · exact fun before after eq some here => upTo.1 before after eq some (.inl here)
      · rintro ⟨front, eq⟩
        have := congrArg List.reverse eq
        simp at this
    -- After a `--!>` the scan goes on to the next `-->`, as if the comment were still open.
    · obtain ⟨body', close', rest, rfl, closed⟩ := exists_closedBy "-->" behind
      have further : UpTo ("-->".toList <+: ·) ("--!>".toList ++ body') (close' ++ rest) := by
        show UpTo _ ('-' :: '-' :: '!' :: '>' :: body') _
        simp only [upTo_cons]
        exact ⟨by simp, by simp, by simp, by simp, closed.1⟩
      have whole : UpTo ("-->".toList <+: ·) (body ++ ("--!>".toList ++ body')) (close' ++ rest) := by
        refine UpTo.extend (q := ClosesComment) ?_ (fun _ => .inl) further
        rwa [List.append_assoc]
      refine ⟨body' ++ close', rest, by simp, .inr (.inr ⟨_, close', by simp, ?_, ?_, whole, closed.2⟩), ?_, ?_⟩
      · simpa using angle
      · simpa using dash
      · have ends : "--!>".toList <:+ body ++ "--!>".toList := List.suffix_append _ _
        have last : close' = [] → rest = [] := by
          rintro rfl
          exact (closed.2.resolve_left (by decide)).2
        simp only [ends, true_implies, List.append_eq_nil_iff]
        tauto
      · exact fun _ => ⟨body', close', rfl, closed⟩
    · refine ⟨[], [], rfl, .inr (.inr ⟨body, [], by simp, angle, dash, ⟨?_, .inl rfl⟩, .inr ⟨rfl, rfl⟩⟩),
        iff_of_true rfl fun _ => rfl, fun no => absurd rfl no⟩
      exact fun before after eq some here => upTo.1 before after eq some (.inl here)

theorem exists_endsComment (cs : List Char) : ∃ inside behind, cs = inside ++ behind ∧ EndsComment inside behind := by
  by_cases angle : ">".toList <+: cs
  · obtain ⟨rest, rfl⟩ := angle
    exact ⟨_, rest, rfl, .inl rfl⟩
  · by_cases dash : "->".toList <+: cs
    · obtain ⟨rest, rfl⟩ := dash
      exact ⟨_, rest, rfl, .inr (.inl rfl)⟩
    · obtain ⟨rest, inside, rfl, finishes⟩ := exists_closing cs
      exact ⟨inside, rest, rfl, .inr (.inr ⟨angle, dash, finishes⟩)⟩

end Scan

/-- Behind `<!--` one text goes through the end of the comment, and there the lexer of markup gives it. The scan ends the
comment at the same place unless it ends in `--!>` and not with the source; then the scan takes all up to the next `-->`, or
to the end, for a part of the comment. So it never looks for tags in a comment, and it goes on right behind the comment
unless that ends in `--!>`. -/
theorem commentLength_eq_iff (cs : List Char) :
    (∃ inside behind, cs = inside ++ behind ∧ EndsComment inside behind) ∧
    ∀ inside behind, cs = inside ++ behind → EndsComment inside behind →
      (∀ (l : Lexer) (foreign : Bool), l.state = .data → l.held = none → ∀ rest,
        Lexer.GivesComment foreign l ("<!--".toList ++ cs) rest ↔ rest = behind) ∧
      (commentLength cs = 4 + inside.length ↔ ("--!>".toList <:+ inside → behind = [])) ∧
      ∃ hidden rest, behind = hidden ++ rest ∧
        segments ("<!--".toList ++ cs) = ⟨.comment, "<!--".toList ++ (inside ++ hidden)⟩ :: segments rest ∧
        (hidden = [] ↔ ("--!>".toList <:+ inside → behind = [])) ∧
        (hidden ≠ [] → ∃ body close, hidden = body ++ close ∧ ClosedBy "-->" body close rest) := by
  refine ⟨exists_endsComment cs, ?_⟩
  rintro inside behind rfl ends
  obtain ⟨hidden, rest, rfl, comment, none, through⟩ := exists_hidden ends
  have whole : "<!--".toList ++ (inside ++ (hidden ++ rest)) = "<!--".toList ++ (inside ++ hidden) ++ ([] ++ rest) := by
    simp
  have scanned : segmentAt ("<!--".toList ++ (inside ++ (hidden ++ rest))) =
      (.comment, ("<!--".toList ++ (inside ++ hidden)).length) := whole ▸ segmentAt_comment comment
  refine ⟨fun l foreign ordinary free more => ⟨fun gives => ?_, ?_⟩, ?_, hidden, rest, rfl, ?_, none, through⟩
  · exact gives.unique (Lexer.gives_in_data ordinary free ends)
  · rintro rfl
    exact Lexer.gives_in_data ordinary free ends
  · have length : commentLength (inside ++ (hidden ++ rest)) = ("<!--".toList ++ (inside ++ hidden)).length :=
      congrArg Prod.snd scanned
    rw [length, ← none]
    simp [← List.length_eq_zero_iff]
    omega
  · rw [whole] at scanned ⊢
    exact segments_append (by simp) scanned rfl

/-- A comment that holds a tag and what looks like the start of another comment. -/
theorem commentLength_eq_iff_nested :
    EndsComment "<!-><b>-->".toList "<p>".toList ∧ ({} : Lexer).state = .data ∧ ({} : Lexer).held = none ∧
      Lexer.GivesComment false {} "<!--<!-><b>--><p>".toList "<p>".toList ∧
      commentLength "<!-><b>--><p>".toList = 14 := by
  have upTo : UpTo ClosesComment "<!-><b>".toList ("-->".toList ++ "<p>".toList) := by
    show UpTo _ ['<', '!', '-', '>', '<', 'b', '>'] _
    simp only [upTo_cons, upTo_nil, closesComment_iff]
    simp
  have ends : EndsComment "<!-><b>-->".toList "<p>".toList :=
    .inr (.inr ⟨by decide, by decide, "<!-><b>".toList, "-->".toList, rfl, upTo, .inl rfl⟩)
  obtain ⟨gives, length, -⟩ := (commentLength_eq_iff "<!-><b>--><p>".toList).2 _ _ rfl ends
  exact ⟨ends, rfl, rfl, (gives {} false rfl rfl _).mpr rfl, length.mpr fun no => absurd no (by decide)⟩

/-- A comment that ends in `--!>`, with an element behind it. -/
def bangPage : String := "<!--a--!><p>x</p>"

/-- The paragraph stands behind the comment, as the lexer of markup reads it, and the scan takes it for a part of the
comment: no tag is found, and the paragraph has no location. -/
theorem commentLength_bangPage :
    (Document.parse default bangPage).2 = .ok (Document.located bangPage) ∧
      bangPage.toList = "<!--".toList ++ ("a--!>".toList ++ "<p>x</p>".toList) ∧
      EndsComment "a--!>".toList "<p>x</p>".toList ∧ Lexer.GivesComment false {} bangPage.toList "<p>x</p>".toList ∧
      commentLength ("a--!>".toList ++ "<p>x</p>".toList) = 17 ∧ startTags bangPage = [] ∧
      names (Document.ofText bangPage) = ["html", "head", "body", "p"] ∧
      locate bangPage (Document.ofText bangPage) = rows (Document.ofText bangPage).elements [none, none, none, none] := by
  have upTo : UpTo ClosesComment ['a'] ("--!>".toList ++ "<p>x</p>".toList) := by
    simp only [upTo_cons, upTo_nil, closesComment_iff]
    simp
  have ends : EndsComment "a--!>".toList "<p>x</p>".toList :=
    .inr (.inr ⟨by decide, by decide, ['a'], "--!>".toList, rfl, upTo, .inr (.inl rfl)⟩)
  exact ⟨Document.parse_of_lenient (by decide) rfl, rfl, ends, Lexer.gives_in_data rfl rfl ends, by decide +kernel,
    by decide +kernel, by decide +kernel, by decide +kernel⟩

end Source

end Pagewalk
