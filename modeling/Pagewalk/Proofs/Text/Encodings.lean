import Mathlib.Data.List.Basic
import Mathlib.Tactic.Common
import Pagewalk.Text.Blank
import Pagewalk.Text.CodeUnits
import Pagewalk.Text.Utf8

/-!
# Bytes and units of characters

To make the ASCII capitals of a text small is to do so byte by byte: the bytes of a character beyond ASCII are no
letters. An ASCII character is settled by looking at all of them. What is written in sixteen-bit units is read back:
no two texts have the same units.
-/

namespace Pagewalk.Text

/-! ### UTF-8 -/

theorem toLower_of_not_ascii {c : Char} (h : 0x80 ≤ c.toNat) : c.toLower = c := by
  refine dif_neg fun cap => ?_
  have : c.toNat ≤ 0x5A := UInt32.le_iff_toNat_le.mp cap.2
  omega

theorem toLower_toLower_ascii : ∀ n < 0x80, (Char.ofNat n).toLower.toLower = (Char.ofNat n).toLower := by decide

theorem toLower_toLower (c : Char) : c.toLower.toLower = c.toLower := by
  by_cases h : c.toNat < 0x80
  · have := toLower_toLower_ascii c.toNat h
    rwa [Char.ofNat_toNat] at this
  · rw [toLower_of_not_ascii (Nat.le_of_not_lt h), toLower_of_not_ascii (Nat.le_of_not_lt h)]

theorem lower_lower (s : String) : lower (lower s) = lower s := by
  rw [lower, lower, String.map_map]
  exact congrArg (String.map · s) (funext toLower_toLower)

namespace Utf8

/-- The byte of an ASCII capital made small, and any other byte as it is. -/
def lowerByte (b : UInt8) : UInt8 := if 0x41 ≤ b ∧ b ≤ 0x5A then b + 0x20 else b

theorem lowerByte_of_not_ascii {b : UInt8} (h : 0x80 ≤ b) : lowerByte b = b := by
  refine if_neg fun cap => ?_
  have := UInt8.le_iff_toNat_le.mp (UInt8.le_trans h cap.2)
  simp at this

/-- A character beyond ASCII has no byte of ASCII. -/
theorem not_ascii_of_mem {c : Char} (h : 0x80 ≤ c.toNat) {b : UInt8} (hb : b ∈ String.utf8EncodeChar c) :
    0x80 ≤ b := by
  have octet : ∀ n, 0x80 ≤ n → n < 0x100 → (0x80 : UInt8) ≤ UInt8.ofNat n := by
    intro n low high
    rw [UInt8.le_iff_toNat_le, UInt8.toNat_ofNat_of_lt' high]
    exact low
  have beyond : ¬c.val.toNat ≤ 0x7F := Nat.not_le_of_lt h
  simp only [String.utf8EncodeChar, if_neg beyond] at hb
  split at hb
  · simp only [List.mem_cons, List.not_mem_nil, or_false] at hb
    rcases hb with rfl | rfl <;> exact octet _ (by omega) (by omega)
  · split at hb
    · simp only [List.mem_cons, List.not_mem_nil, or_false] at hb
      rcases hb with rfl | rfl | rfl <;> exact octet _ (by omega) (by omega)
    · simp only [List.mem_cons, List.not_mem_nil, or_false] at hb
      rcases hb with rfl | rfl | rfl | rfl <;> exact octet _ (by omega) (by omega)

theorem utf8EncodeChar_toLower_ascii :
    ∀ n < 0x80, String.utf8EncodeChar (Char.ofNat n).toLower = (String.utf8EncodeChar (Char.ofNat n)).map lowerByte := by
  decide

/-- The bytes of a character made small. -/
theorem utf8EncodeChar_toLower (c : Char) :
    String.utf8EncodeChar c.toLower = (String.utf8EncodeChar c).map lowerByte := by
  by_cases h : c.toNat < 0x80
  · have := utf8EncodeChar_toLower_ascii c.toNat h
    rwa [Char.ofNat_toNat] at this
  · have high : 0x80 ≤ c.toNat := Nat.le_of_not_lt h
    have same : (String.utf8EncodeChar c).map lowerByte = String.utf8EncodeChar c :=
      (List.map_congr_left fun b hb => lowerByte_of_not_ascii (not_ascii_of_mem high hb)).trans (List.map_id' _)
    rw [toLower_of_not_ascii high, same]

theorem flatMap_toLower (cs : List Char) :
    (cs.map Char.toLower).flatMap String.utf8EncodeChar = (cs.flatMap String.utf8EncodeChar).map lowerByte := by
  rw [List.flatMap_map, List.map_flatMap]
  exact congrArg (cs.flatMap ·) (funext utf8EncodeChar_toLower)

theorem encode_lower (s : String) : encode (lower s) = (encode s).map lowerByte := by
  rw [encode, lower, String.toList_map]
  exact flatMap_toLower s.toList

end Utf8

/-! ### UTF-16 -/

variable {u h l : UInt16} {c : Char} {read : List (Except UInt16 Char)}

theorem step_single (high : isHighHalf u = false) (low : isLowHalf u = false) :
    Pairing.step ⟨none, read⟩ u = ⟨none, .ok (Char.ofNat u.toNat) :: read⟩ := by
  rw [Pairing.step, Pairing.start, high, low]
  rfl

theorem step_pair (high : isHighHalf h = true) (low : isLowHalf l = true) :
    Pairing.step (Pairing.step ⟨none, read⟩ h) l = ⟨none, .ok (joinHalves h l) :: read⟩ := by
  rw [Pairing.step.eq_def ⟨none, read⟩, Pairing.start, high]
  simp only [Pairing.step, low, if_true]

/-- The two halves of a character that does not fit into a unit, as numbers. -/
theorem halves_toNat (c : Char) (pair : 0x10000 ≤ c.toNat) :
    (0xD800 + (c.toNat - 0x10000) / 0x400).toUInt16.toNat = 0xD800 + (c.toNat - 0x10000) / 0x400 ∧
      (0xDC00 + (c.toNat - 0x10000) % 0x400).toUInt16.toNat = 0xDC00 + (c.toNat - 0x10000) % 0x400 ∧
      (c.toNat - 0x10000) / 0x400 < 0x400 ∧ (c.toNat - 0x10000) % 0x400 < 0x400 := by
  have valid : c.toNat < 0x110000 := c.valid.elim (fun h => Nat.lt_trans h (by decide)) And.right
  have quotient : (c.toNat - 0x10000) / 0x400 < 0x400 := by omega
  have rest : (c.toNat - 0x10000) % 0x400 < 0x400 := Nat.mod_lt _ (by decide)
  exact ⟨UInt16.toNat_ofNat_of_lt (show _ < 0x10000 by omega), UInt16.toNat_ofNat_of_lt (show _ < 0x10000 by omega),
    quotient, rest⟩

/-- The units of a character are read as the character when no half waits. -/
theorem foldl_unitsOfChar (c : Char) (read : List (Except UInt16 Char)) :
    (unitsOfChar c).foldl Pairing.step ⟨none, read⟩ = ⟨none, .ok c :: read⟩ := by
  rw [unitsOfChar]
  split
  next single =>
    have unit : c.toNat.toUInt16.toNat = c.toNat := UInt16.toNat_ofNat_of_lt single
    have apart : c.toNat < 0xD800 ∨ 0xDFFF < c.toNat := c.valid.imp id And.left
    have high : isHighHalf c.toNat.toUInt16 = false := by
      simp only [isHighHalf, Bool.and_eq_false_iff, decide_eq_false_iff_not, UInt16.le_iff_toNat_le, unit,
        UInt16.reduceToNat]
      omega
    have low : isLowHalf c.toNat.toUInt16 = false := by
      simp only [isLowHalf, Bool.and_eq_false_iff, decide_eq_false_iff_not, UInt16.le_iff_toNat_le, unit,
        UInt16.reduceToNat]
      omega
    rw [List.foldl_cons, step_single high low, unit, Char.ofNat_toNat]
    rfl
  next pair =>
    obtain ⟨highNat, lowNat, quotient, rest⟩ := halves_toNat c (Nat.le_of_not_lt pair)
    have sum : (c.toNat - 0x10000) / 0x400 * 0x400 + (c.toNat - 0x10000) % 0x400 + 0x10000 = c.toNat := by omega
    generalize (c.toNat - 0x10000) / 0x400 = q at highNat quotient sum ⊢
    generalize (c.toNat - 0x10000) % 0x400 = r at lowNat rest sum ⊢
    generalize (0xD800 + q).toUInt16 = h at highNat ⊢
    generalize (0xDC00 + r).toUInt16 = l at lowNat ⊢
    have high : isHighHalf h = true := by
      simp only [isHighHalf, Bool.and_eq_true, decide_eq_true_iff, UInt16.le_iff_toNat_le, UInt16.reduceToNat]
      omega
    have low : isLowHalf l = true := by
      simp only [isLowHalf, Bool.and_eq_true, decide_eq_true_iff, UInt16.le_iff_toNat_le, UInt16.reduceToNat]
      omega
    have joined : joinHalves h l = c := by
      rw [joinHalves, show 0x10000 + (h.toNat - 0xD800) * 0x400 + (l.toNat - 0xDC00) = c.toNat by omega,
        Char.ofNat_toNat]
    rw [List.foldl_cons, List.foldl_cons, step_pair high low, joined]
    rfl

/-- Characters that are written in units are read back. -/
theorem decodeUnits_flatMap (cs : List Char) : decodeUnits (cs.flatMap unitsOfChar) = cs.map .ok := by
  have reads (cs : List Char) (read : List (Except UInt16 Char)) :
      (cs.flatMap unitsOfChar).foldl Pairing.step ⟨none, read⟩ = ⟨none, (cs.map .ok).reverse ++ read⟩ := by
    induction cs generalizing read with
    | nil => rfl
    | cons c cs ih =>
      rw [List.flatMap_cons, List.foldl_append, foldl_unitsOfChar, ih, List.map_cons, List.reverse_cons,
        List.append_assoc]
      rfl
  rw [decodeUnits, reads, List.append_nil]
  exact List.reverse_reverse _

theorem CodeUnits.toLossyText_ofString (s : String) : (CodeUnits.ofString s).toLossyText = s := by
  rw [CodeUnits.toLossyText, CodeUnits.ofString, CodeUnits.ofChars, decodeUnits_flatMap, List.map_map]
  exact (congrArg String.ofList (List.map_id _)).trans String.ofList_toList

/-- A text has no lone half that would be escaped. -/
theorem CodeUnits.toText_ofString (s : String) : (CodeUnits.ofString s).toText = s := by
  rw [CodeUnits.toText, CodeUnits.ofString, CodeUnits.ofChars, decodeUnits_flatMap, List.flatMap_map]
  exact (congrArg String.ofList (List.flatMap_singleton' _)).trans String.ofList_toList

/-- Texts of the same units are the same. -/
theorem CodeUnits.ofString_injective : Function.Injective CodeUnits.ofString := by
  intro s t same
  have units : s.toList.flatMap unitsOfChar = t.toList.flatMap unitsOfChar :=
    Array.mk.inj (congrArg CodeUnits.val same)
  have read := congrArg decodeUnits units
  rw [decodeUnits_flatMap, decodeUnits_flatMap] at read
  exact String.toList_inj.mp ((List.map_inj_right fun _ _ => Except.ok.inj).mp read)

end Pagewalk.Text
