import Mathlib.Data.List.Basic
import Pagewalk.Proofs.Text.Encodings

/-!
# Slices of a text by the offsets of its bytes

An offset into a text counts bytes, and a slice fails when its offset lies beyond the text or inside a character. The word
that is looked for among the bytes is made of ASCII characters, and no byte of a character beyond ASCII is one of them, so
wherever its bytes stand, its characters stand, and both ends of it are boundaries of characters.
-/

namespace Pagewalk.Text.Utf8

/-- The bytes of characters. -/
def octets (cs : List Char) : List UInt8 := cs.flatMap String.utf8EncodeChar

/-- Why a text cannot be sliced at an offset. -/
inductive SliceFault where
  | beyondEnd
  | insideCharacter
  deriving DecidableEq, Repr

/-- The two parts of a text in front of an offset and behind it. -/
def cutAt : Nat → List Char → Except SliceFault (List Char × List Char)
  | 0, cs => .ok ([], cs)
  | _ + 1, [] => .error .beyondEnd
  | n + 1, c :: cs =>
    if n + 1 < c.utf8Size then .error .insideCharacter
    else (cutAt (n + 1 - c.utf8Size) cs).map fun (front, behind) => (c :: front, behind)

/-- The offset of the first place among bytes where the given ones stand. -/
def offsetOfBytes? (word : List UInt8) : List UInt8 → Option Nat
  | [] => if word.isEmpty then some 0 else none
  | b :: bs => if word.isPrefixOf (b :: bs) then some 0 else (offsetOfBytes? word bs).map (· + 1)

/-- The offset of the first character of a kind. -/
def offsetOf? (p : Char → Bool) : List Char → Option Nat
  | [] => none
  | c :: cs => if p c then some 0 else (offsetOf? p cs).map (· + c.utf8Size)

/-- An offset between two characters of a text, or at one of its ends. -/
def IsBoundary (cs : List Char) (n : Nat) : Prop :=
  ∃ front behind, cs = front ++ behind ∧ (octets front).length = n

/-- Every character of a text is one of ASCII. -/
def IsAscii (cs : List Char) : Prop := ∀ c ∈ cs, c.toNat < 0x80

instance (cs : List Char) : Decidable (IsAscii cs) := List.decidableBAll _ cs

section Slices
variable {c d : Char} {cs ds front behind word : List Char} {p : Char → Bool} {bytes sought : List UInt8} {n : Nat}

/-! ### Bytes -/

@[simp] theorem octets_nil : octets [] = [] := rfl

@[simp] theorem octets_cons : octets (c :: cs) = String.utf8EncodeChar c ++ octets cs := rfl

@[simp] theorem octets_append : octets (cs ++ ds) = octets cs ++ octets ds := List.flatMap_append

@[simp] theorem length_octets_cons : (octets (c :: cs)).length = c.utf8Size + (octets cs).length := by
  rw [octets_cons, List.length_append, String.length_utf8EncodeChar]

/-- Small letters take as many bytes as the text they come from. -/
@[simp] theorem length_octets_toLower : (octets (cs.map Char.toLower)).length = (octets cs).length := by
  rw [octets, flatMap_toLower, List.length_map, octets]

theorem utf8EncodeChar_of_ascii (h : c.toNat < 0x80) : String.utf8EncodeChar c = [UInt8.ofNat c.toNat] :=
  if_pos (Nat.le_of_lt_succ h)

theorem utf8Size_of_ascii (h : c.toNat < 0x80) : c.utf8Size = 1 := by
  rw [← String.length_utf8EncodeChar, utf8EncodeChar_of_ascii h, List.length_singleton]

/-- Only the empty text takes no bytes. -/
@[simp] theorem octets_eq_nil_iff : octets cs = [] ↔ cs = [] := by
  cases cs with
  | nil => simp
  | cons c cs =>
    have some := c.utf8Size_pos
    rw [← List.length_eq_zero_iff, length_octets_cons]
    simp only [reduceCtorEq, iff_false]
    omega

/-! ### Cuts -/

/-- A cut gives the two parts of the text at a boundary, and fails elsewhere. -/
theorem cutAt_eq_ok_iff : cutAt n cs = .ok (front, behind) ↔ cs = front ++ behind ∧ (octets front).length = n := by
  induction cs generalizing n front with
  | nil =>
    cases n with
    | zero => cases front <;> simp [cutAt, eq_comm]
    | succ n =>
      simp only [cutAt, reduceCtorEq, false_iff, not_and]
      intro empty
      simp [(List.append_eq_nil_iff.mp empty.symm).1]
  | cons c cs ih =>
    cases n with
    | zero =>
      simp only [cutAt, Except.ok.injEq, Prod.mk.injEq, List.length_eq_zero_iff, octets_eq_nil_iff]
      constructor
      · rintro ⟨rfl, rfl⟩
        exact ⟨rfl, rfl⟩
      · rintro ⟨eq, rfl⟩
        exact ⟨rfl, eq⟩
    | succ n =>
      rw [cutAt]
      cases front with
      | nil =>
        split
        · simp
        · cases cutAt (n + 1 - c.utf8Size) cs <;> simp [Except.map]
      | cons d front =>
        rw [List.cons_append, List.cons.injEq, and_assoc, length_octets_cons]
        split
        -- Inside the first character there is no boundary.
        · rename_i inside
          simp only [reduceCtorEq, false_iff]
          rintro ⟨rfl, -, length⟩
          omega
        · rename_i past
          have rest := @ih front (n + 1 - c.utf8Size)
          constructor
          · intro h
            cases cut : cutAt (n + 1 - c.utf8Size) cs with
            | error fault =>
              rw [cut] at h
              cases h
            | ok parts =>
              rw [cut] at h
              cases h
              obtain ⟨eq, length⟩ := rest.mp cut
              exact ⟨rfl, eq, by omega⟩
          · rintro ⟨rfl, eq, length⟩
            rw [rest.mpr ⟨eq, by omega⟩]
            rfl

theorem cutAt_append : cutAt (octets front).length (front ++ behind) = .ok (front, behind) :=
  cutAt_eq_ok_iff.mpr ⟨rfl, rfl⟩

/-- The offsets at which a text can be sliced are its boundaries. -/
theorem isBoundary_iff : IsBoundary cs n ↔ ∃ parts, cutAt n cs = .ok parts := by
  simp only [Prod.exists, cutAt_eq_ok_iff, IsBoundary]

/-- Small letters leave the boundaries of a text where they are. -/
theorem isBoundary_toLower : IsBoundary (cs.map Char.toLower) n ↔ IsBoundary cs n := by
  constructor
  · rintro ⟨front, behind, eq, length⟩
    obtain ⟨front', behind', rfl, rfl, rfl⟩ := List.map_eq_append_iff.mp eq
    exact ⟨front', behind', rfl, by rwa [length_octets_toLower] at length⟩
  · rintro ⟨front, behind, rfl, rfl⟩
    exact ⟨_, _, List.map_append, length_octets_toLower⟩

/-! ### Searches -/

theorem offsetOf?_eq_none_iff : offsetOf? p cs = none ↔ ∀ c ∈ cs, p c = false := by
  induction cs with
  | nil => simp [offsetOf?]
  | cons c cs ih =>
    rw [offsetOf?]
    split
    · rename_i here
      simp [here]
    · rename_i apart
      simp [ih, apart]

/-- The first character of a kind stands behind those that are not of it. -/
theorem offsetOf?_eq_some_iff : offsetOf? p cs = some n ↔
    ∃ front c behind, cs = front ++ c :: behind ∧ p c = true ∧ (∀ d ∈ front, p d = false) ∧ (octets front).length = n := by
  induction cs generalizing n with
  | nil => simp [offsetOf?]
  | cons c cs ih =>
    rw [offsetOf?]
    split
    · rename_i here
      rw [Option.some.injEq]
      constructor
      · rintro rfl
        exact ⟨[], c, cs, rfl, here, by simp, rfl⟩
      · rintro ⟨front, d, behind, eq, -, apart, rfl⟩
        cases front with
        | nil => rfl
        | cons e front =>
          obtain ⟨rfl, -⟩ := List.cons.inj eq
          rw [apart c (.head _)] at here
          cases here
    · rename_i other
      rw [Option.map_eq_some_iff]
      constructor
      · rintro ⟨m, found, rfl⟩
        obtain ⟨front, d, behind, rfl, here, apart, rfl⟩ := ih.mp found
        refine ⟨c :: front, d, behind, rfl, here, fun e among => ?_, ?_⟩
        · rcases List.mem_cons.mp among with rfl | among
          · simpa using other
          · exact apart e among
        · rw [length_octets_cons, Nat.add_comm]
      · rintro ⟨front, d, behind, eq, here, apart, rfl⟩
        cases front with
        | nil =>
          obtain ⟨rfl, -⟩ := List.cons.inj eq
          exact absurd here other
        | cons e front =>
          obtain ⟨rfl, rfl⟩ := List.cons.inj eq
          refine ⟨_, ih.mpr ⟨front, d, behind, rfl, here, fun e among => apart e (.tail _ among), rfl⟩, ?_⟩
          rw [length_octets_cons, Nat.add_comm]

theorem offsetOfBytes?_eq_none_iff : offsetOfBytes? sought bytes = none ↔ ∀ n, ¬ sought <+: bytes.drop n := by
  induction bytes with
  | nil => simp [offsetOfBytes?]
  | cons b bs ih =>
    rw [offsetOfBytes?]
    split
    · rename_i here
      simp only [reduceCtorEq, false_iff, not_forall, not_not]
      exact ⟨0, List.isPrefixOf_iff_prefix.mp here⟩
    · rename_i apart
      rw [Option.map_eq_none_iff, ih]
      constructor
      · rintro none (_ | n)
        · exact fun here => apart (List.isPrefixOf_iff_prefix.mpr here)
        · exact none n
      · exact fun none n => none (n + 1)

/-- Bytes are found at the first offset at which they stand. -/
theorem offsetOfBytes?_eq_some_iff : offsetOfBytes? sought bytes = some n ↔
    sought <+: bytes.drop n ∧ ∀ m < n, ¬ sought <+: bytes.drop m := by
  induction bytes generalizing n with
  | nil =>
    rw [offsetOfBytes?]
    cases sought with
    | nil =>
      cases n with
      | zero => simp
      | succ n =>
        constructor
        · nofun
        · exact fun ⟨_, first⟩ => absurd List.nil_prefix (first 0 (Nat.succ_pos n))
    | cons b sought => simp
  | cons b bs ih =>
    rw [offsetOfBytes?]
    split
    · rename_i here
      rw [Option.some.injEq]
      constructor
      · rintro rfl
        exact ⟨List.isPrefixOf_iff_prefix.mp here, by simp⟩
      · rintro ⟨-, first⟩
        cases n with
        | zero => rfl
        | succ n => exact absurd (List.isPrefixOf_iff_prefix.mp here) (first 0 (Nat.succ_pos n))
    · rename_i apart
      rw [List.isPrefixOf_iff_prefix] at apart
      rw [Option.map_eq_some_iff]
      cases n with
      | zero => simp [apart]
      | succ n =>
        simp only [Nat.succ.injEq, exists_eq_right, ih, List.drop_succ_cons]
        refine and_congr_right fun _ => ⟨fun first m less => ?_, fun first m less => first (m + 1) (Nat.succ_lt_succ less)⟩
        cases m with
        | zero => exact apart
        | succ m => exact first m (Nat.lt_of_succ_lt_succ less)

/-! ### The bytes of a word of ASCII -/

theorem toNat_ofNat_of_ascii (h : c.toNat < 0x80) : (UInt8.ofNat c.toNat).toNat = c.toNat :=
  UInt8.toNat_ofNat_of_lt' (Nat.lt_trans h (by decide))

/-- A character beyond ASCII begins with another byte than one of ASCII does. -/
theorem not_mem_octets_of_ascii (ascii : c.toNat < 0x80) (beyond : 0x80 ≤ d.toNat) :
    UInt8.ofNat c.toNat ∉ String.utf8EncodeChar d := by
  intro among
  have high := UInt8.le_iff_toNat_le.mp (not_ascii_of_mem beyond among)
  rw [toNat_ofNat_of_ascii ascii] at high
  exact Nat.not_le.mpr ascii high

/-- The bytes of a word of ASCII stand at the start of those of a text only if the word stands there. -/
theorem octets_prefix_iff (ascii : IsAscii word) : octets word <+: octets cs ↔ word <+: cs := by
  induction word generalizing cs with
  | nil => simp
  | cons a word ih =>
    have low := ascii a (.head _)
    rw [octets_cons, utf8EncodeChar_of_ascii low, List.singleton_append]
    cases cs with
    | nil => simp
    | cons c cs =>
      rw [octets_cons, List.cons_prefix_cons, ← ih fun d among => ascii d (.tail _ among)]
      by_cases plain : c.toNat < 0x80
      · rw [utf8EncodeChar_of_ascii plain, List.singleton_append, List.cons_prefix_cons]
        refine and_congr_left fun _ => ⟨fun same => Char.toNat_inj.mp ?_, fun same => by rw [same]⟩
        rw [← toNat_ofNat_of_ascii low, ← toNat_ofNat_of_ascii plain, same]
      · have apart := not_mem_octets_of_ascii low (Nat.le_of_not_lt plain)
        cases encoded : String.utf8EncodeChar c with
        | nil => exact absurd encoded String.utf8EncodeChar_ne_nil
        | cons b bs =>
          rw [List.cons_append, List.cons_prefix_cons]
          constructor
          · rintro ⟨rfl, -⟩
            exact absurd (encoded ▸ List.mem_cons_self) apart
          · rintro ⟨rfl, -⟩
            exact absurd low plain

/-- The bytes of a word of ASCII do not begin inside a character. -/
theorem not_octets_prefix_inside (ascii : IsAscii word) (some : word ≠ []) (pos : 0 < n) (inside : n < c.utf8Size) :
    ¬ octets word <+: (String.utf8EncodeChar c).drop n ++ bytes := by
  have beyond : 0x80 ≤ c.toNat := by
    refine Nat.le_of_not_lt fun plain => ?_
    rw [utf8Size_of_ascii plain] at inside
    omega
  cases word with
  | nil => exact absurd rfl some
  | cons a word =>
    have low := ascii a (.head _)
    rw [octets_cons, utf8EncodeChar_of_ascii low, List.singleton_append]
    cases left : (String.utf8EncodeChar c).drop n with
    | nil =>
      rw [List.drop_eq_nil_iff, String.length_utf8EncodeChar] at left
      exact absurd inside (Nat.not_lt.mpr left)
    | cons b bs =>
      rw [List.cons_append, List.cons_prefix_cons]
      rintro ⟨rfl, -⟩
      exact not_mem_octets_of_ascii low beyond (List.mem_of_mem_drop (left ▸ List.mem_cons_self))

/-- The bytes of a word of ASCII stand at an offset only if the word stands there, between two boundaries. -/
theorem octets_prefix_drop_iff (ascii : IsAscii word) (some : word ≠ []) : octets word <+: (octets cs).drop n ↔
    ∃ front behind, cs = front ++ (word ++ behind) ∧ (octets front).length = n := by
  induction cs generalizing n with
  | nil =>
    rw [octets_nil, List.drop_nil, List.prefix_nil, octets_eq_nil_iff]
    refine ⟨fun none => absurd none some, ?_⟩
    rintro ⟨front, behind, eq, -⟩
    exact (List.append_eq_nil_iff.mp (List.append_eq_nil_iff.mp eq.symm).2).1
  | cons c cs ih =>
    rcases Nat.eq_zero_or_pos n with rfl | pos
    · rw [List.drop_zero, octets_prefix_iff ascii]
      constructor
      · rintro ⟨behind, eq⟩
        exact ⟨[], behind, eq.symm, rfl⟩
      · rintro ⟨front, behind, eq, empty⟩
        rw [List.length_eq_zero_iff, octets_eq_nil_iff] at empty
        subst empty
        exact ⟨behind, eq.symm⟩
    -- A place that is not the first one stands behind the first character, so that character is not part of the word.
    have split : (∃ front behind, c :: cs = front ++ (word ++ behind) ∧ (octets front).length = n) ↔
        c.utf8Size ≤ n ∧ ∃ front behind, cs = front ++ (word ++ behind) ∧ (octets front).length = n - c.utf8Size := by
      constructor
      · rintro ⟨front, behind, eq, length⟩
        cases front with
        | nil => exact absurd length.symm (Nat.ne_of_gt pos)
        | cons d front =>
          obtain ⟨rfl, rfl⟩ := List.cons.inj eq
          rw [length_octets_cons] at length
          exact ⟨by omega, front, behind, rfl, by omega⟩
      · rintro ⟨past, front, behind, rfl, length⟩
        exact ⟨c :: front, behind, rfl, by rw [length_octets_cons]; omega⟩
    rw [split, octets_cons, List.drop_append, String.length_utf8EncodeChar]
    by_cases past : c.utf8Size ≤ n
    · rw [List.drop_eq_nil_of_le (by rwa [String.length_utf8EncodeChar]), List.nil_append, ih]
      simp [past]
    · simpa [past] using not_octets_prefix_inside ascii some pos (Nat.lt_of_not_le past)

end Slices

end Pagewalk.Text.Utf8
