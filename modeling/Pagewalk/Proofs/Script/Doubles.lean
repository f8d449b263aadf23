import Mathlib
import Pagewalk.Script.Number

/-!
# Natural numbers as doubles

A double holds a natural number below 2 ^ 53 exactly: its digits, brought to 53 binary places, are the mantissa. So the
number can be had back, the order of doubles is the order of the numbers, and sums, products and remainders are exact as
long as they have a double.
-/

namespace Pagewalk.Script.Number

open Float.Model Float.Model.UnpackedFloat

/-! ### Rounding what needs none -/

theorem log2_shiftLeft {m : Nat} (hm : m ≠ 0) (k : Nat) : (m <<< k).log2 = m.log2 + k := by
  have power : 0 < 2 ^ k := Nat.pow_pos (by decide)
  have pos : m <<< k ≠ 0 := by
    rw [Nat.shiftLeft_eq]
    exact Nat.mul_ne_zero hm (Nat.pos_iff_ne_zero.mp power)
  obtain ⟨low, high⟩ := (Nat.log2_eq_iff hm).mp rfl
  rw [Nat.log2_eq_iff pos, Nat.shiftLeft_eq, Nat.pow_add, Nat.add_right_comm, Nat.pow_add]
  exact ⟨Nat.mul_le_mul_right _ low, Nat.mul_lt_mul_of_pos_right high power⟩

/-- Digits that are all zero leave nothing to be rounded. -/
theorem shiftRight_shiftLeft (m k : Nat) :
    (⟨m <<< k, false, false⟩ : ExtendedMantissa) >>> k = ⟨m, false, false⟩ := by
  induction k generalizing m with
  | zero => rfl
  | succ k ih =>
    have doubled : m <<< (k + 1) = (m * 2) <<< k := by
      rw [Nat.shiftLeft_eq, Nat.shiftLeft_eq, Nat.pow_succ, Nat.mul_assoc, Nat.mul_comm 2]
    change ExtendedMantissa.shiftRightOne ((⟨m <<< (k + 1), false, false⟩ : ExtendedMantissa) >>> k) = _
    rw [doubled, ih, ExtendedMantissa.shiftRightOne]
    simp

/-- A mantissa of 53 places with zeros after it is left as it is. -/
theorem shiftToTargetExponent_shiftLeft {m : Nat} {e : Int} (places : m.log2 = 52) (range : -1074 ≤ e) (k : Nat) :
    shiftToTargetExponent Format.binary64 (m <<< k) (e - k) .exact = (⟨m, false, false⟩, e) := by
  have hm : m ≠ 0 := by
    rintro rfl
    cases places
  have target : Format.binary64.targetExponent (totalExponent (m <<< k) (e - k)) = e := by
    rw [Format.targetExponent, totalExponent, log2_shiftLeft hm, places, Format.minExponent, Format.mantissaBits]
    simp only
    omega
  rw [shiftToTargetExponent, target, shiftToExponent]
  have amount : (e - (e - k)).toNat = k := by omega
  simp only [amount, ExtendedMantissa.ofMantissaAndAccuracy, shiftRight_shiftLeft]
  rw [Int.sub_add_cancel]

/-- What has 53 places is rounded to itself. -/
theorem roundWithAccuracy_shiftLeft {m : Nat} {e : Int} (places : m.log2 = 52) (range : -1074 ≤ e) (pos : 0 < m)
    (k : Nat) : roundWithAccuracy Format.binary64 .positive (m <<< k) (e - k) .exact = .finite .positive m e pos := by
  have first := shiftToTargetExponent_shiftLeft places range k
  have second := shiftToTargetExponent_shiftLeft places range 0
  rw [Nat.shiftLeft_zero, Int.natCast_zero, Int.sub_zero] at second
  have rounded : (⟨m, false, false⟩ : ExtendedMantissa).roundedMantissa = m := rfl
  simp only [roundWithAccuracy, first, second, rounded]
  rw [dif_neg (Nat.pos_iff_ne_zero.mp pos)]

/-! ### What is had back from bits -/

/-- What has 53 places is packed as the place of its first digit and the digits behind it. -/
theorem pack_finite {m b : Nat} (places : m.log2 = 52) (pos : 0 < m) (low : 1 ≤ b) (high : b ≤ 2046) :
    UnpackedFloat.pack Format.binary64 (.finite .positive m ((b : Int) - 1075) pos) =
      packComponents Format.binary64 .positive (BitVec.ofNat _ b) (BitVec.ofNat _ m) := by
  have bias : (Format.binary64.exponentBias : Int) = 1023 := rfl
  have width : (Format.binary64.mantissaBitsWithoutImplicit : Int) = 52 := rfl
  have biased : ((b : Int) - 1075 + Format.binary64.exponentBias + Format.binary64.mantissaBitsWithoutImplicit).toNat =
      b := by
    omega
  have bounds : 2 ^ Format.binary64.exponentBits = 2048 := rfl
  rw [UnpackedFloat.pack]
  simp only [biased, bounds]
  rw [if_neg (by omega), if_pos (by rw [places]; rfl)]

/-- What has 53 places is had back from its bits. -/
theorem unpack_pack {m : Nat} {e : Int} (places : m.log2 = 52) (pos : 0 < m) (low : -1074 ≤ e) (high : e ≤ 971) :
    UnpackedFloat.unpack Format.binary64 (UnpackedFloat.pack Format.binary64 (.finite .positive m e pos)) =
      .finite .positive m e pos := by
  obtain ⟨mLow, mHigh⟩ := (Nat.log2_eq_iff (Nat.pos_iff_ne_zero.mp pos)).mp places
  obtain ⟨b, rfl⟩ : ∃ b : Nat, e = b - 1075 := ⟨(e + 1075).toNat, by omega⟩
  have bias : (Format.binary64.exponentBias : Int) = 1023 := rfl
  have width : (Format.binary64.mantissaBitsWithoutImplicit : Int) = 52 := rfl
  have bounds : 2 ^ Format.binary64.exponentBits = 2048 := rfl
  have exponent : (BitVec.ofNat Format.binary64.exponentBits b).toNat = b := by
    rw [BitVec.toNat_ofNat, bounds]
    exact Nat.mod_eq_of_lt (by omega)
  have notAll : BitVec.ofNat Format.binary64.exponentBits b ≠ -1#_ := by
    intro all
    have := congrArg BitVec.toNat all
    rw [exponent] at this
    have top : (-BitVec.ofNat Format.binary64.exponentBits 1).toNat = 2047 := rfl
    omega
  have notNone : BitVec.ofNat Format.binary64.exponentBits b ≠ 0#_ := by
    intro none
    have := congrArg BitVec.toNat none
    rw [exponent] at this
    have zero : (BitVec.ofNat Format.binary64.exponentBits 0).toNat = 0 := rfl
    omega
  have mantissa : (1#1 ++ BitVec.ofNat Format.binary64.mantissaBitsWithoutImplicit m).toNat = m := by
    have rest : m % 2 ^ 52 = m - 2 ^ 52 := by omega
    rw [BitVec.toNat_append]
    change 2 ^ 52 ||| m % 2 ^ 52 = m
    have sum := Nat.two_pow_add_eq_or_of_lt (Nat.mod_lt m (show 0 < 2 ^ 52 by decide)) 1
    rw [Nat.mul_one] at sum
    rw [← sum, rest]
    omega
  rw [pack_finite places pos (by omega) (by omega), UnpackedFloat.unpack]
  simp only [unpackMantissa_packComponents, unpackExponent_packComponents, unpackSign_packComponents]
  rw [if_neg notAll, if_neg notNone]
  simp only [mantissa, exponent, bias, width]
  rfl

/-! ### The double of a natural number -/

/-- A natural number with its digits brought to 53 binary places. -/
def mantissaOf (n : Nat) : Nat := n <<< (52 - n.log2)

theorem mantissaOf_pos {n : Nat} (pos : 0 < n) : 0 < mantissaOf n := by
  rw [mantissaOf, Nat.shiftLeft_eq]
  exact Nat.mul_pos pos (Nat.pow_pos (by decide))

/-- The double of a natural number. -/
def doubleOf (n : Nat) : UnpackedFloat :=
  if pos : 0 < n then .finite .positive (mantissaOf n) (n.log2 - 52) (mantissaOf_pos pos) else .zero .positive

theorem doubleOf_of_pos {n : Nat} (pos : 0 < n) :
    doubleOf n = .finite .positive (mantissaOf n) (n.log2 - 52) (mantissaOf_pos pos) := dif_pos pos

/-- The double of one. -/
def one : UnpackedFloat := .finite .positive (2 ^ 52) (-52) (by decide)

theorem unpack_one : (Float.ofBits 0x3FF0000000000000).toModel.unpack = one := rfl

section Exact

variable {n : Nat} (small : n < 2 ^ 53)

include small

theorem log2_le (pos : 0 < n) : n.log2 ≤ 52 :=
  Nat.le_of_lt_succ ((Nat.log2_lt (Nat.pos_iff_ne_zero.mp pos)).mpr small)

theorem log2_mantissaOf (pos : 0 < n) : (mantissaOf n).log2 = 52 := by
  rw [mantissaOf, log2_shiftLeft (Nat.pos_iff_ne_zero.mp pos)]
  have := log2_le small pos
  omega

/-- Digits with zeros after them are the double of the number, wherever the point was put. -/
theorem normalize_shiftLeft (k : Nat) :
    UnpackedFloat.normalize Format.binary64 ((n <<< k : Nat) : Int) (-(k : Int)) .positive = doubleOf n := by
  obtain rfl | pos := Nat.eq_zero_or_pos n
  · rw [Nat.zero_shiftLeft]
    rfl
  have le := log2_le small pos
  have pos' : n <<< k ≠ 0 := by
    rw [Nat.shiftLeft_eq]
    exact Nat.mul_ne_zero (Nat.pos_iff_ne_zero.mp pos) (Nat.pow_pos (by decide)).ne'
  have target : Format.binary64.targetExponent (totalExponent (n <<< k) (-(k : Int))) = n.log2 - 52 := by
    rw [Format.targetExponent, totalExponent, log2_shiftLeft (Nat.pos_iff_ne_zero.mp pos), Format.minExponent,
      Format.mantissaBits]
    simp only
    omega
  obtain ⟨d, amount, digits⟩ : ∃ d, (-(k : Int) - ((n.log2 : Int) - 52)).toNat = d ∧ 52 - n.log2 ≤ k + d :=
    ⟨_, rfl, by omega⟩
  obtain ⟨j, hj⟩ := Nat.exists_eq_add_of_le digits
  have mantissa : n <<< k <<< d = mantissaOf n <<< j := by
    rw [mantissaOf, ← Nat.shiftLeft_add, ← Nat.shiftLeft_add, hj]
  have exponent : -(k : Int) - d = n.log2 - 52 - j := by omega
  have sign : compare ((n <<< k : Nat) : Int) 0 = .gt := 
    Std.compare_eq_gt.mpr (Int.natCast_pos.mpr (Nat.pos_of_ne_zero pos'))
  simp only [UnpackedFloat.normalize, sign, UnpackedFloat.round, Int.toNat_natCast, target, decreaseExponent, amount,
    mantissa, exponent]
  rw [roundWithAccuracy_shiftLeft (log2_mantissaOf small pos) (by omega) (mantissaOf_pos pos) j,
    doubleOf_of_pos pos]

theorem ofNat_eq : UnpackedFloat.ofNat Format.binary64 n = doubleOf n := normalize_shiftLeft small 0

theorem unpack_pack_doubleOf : (Float.Model.pack (doubleOf n)).unpack = doubleOf n := by
  obtain rfl | pos := Nat.eq_zero_or_pos n
  · rfl
  have le := log2_le small pos
  rw [doubleOf_of_pos pos]
  exact unpack_pack (log2_mantissaOf small pos) (mantissaOf_pos pos) (by omega) (by omega)

theorem unpack_toUInt64_toFloat : n.toUInt64.toFloat.toModel.unpack = doubleOf n := by
  have value : n.toUInt64.toNat = n := UInt64.toNat_ofNat_of_lt (Nat.lt_trans small (by decide))
  change (Float.Model.pack (UnpackedFloat.ofNat Format.binary64 n.toUInt64.toNat)).unpack = _
  rw [value, ofNat_eq small, unpack_pack_doubleOf small]

/-- Multiplying by one changes nothing. -/
theorem doubleOf_mul_one : UnpackedFloat.mul Format.binary64 (doubleOf n) one = doubleOf n := by
  obtain rfl | pos := Nat.eq_zero_or_pos n
  · rfl
  have le := log2_le small pos
  have product : mantissaOf n * 2 ^ 52 = mantissaOf n <<< 52 := (Nat.shiftLeft_eq _ _).symm
  rw [doubleOf_of_pos pos]
  change roundWithAccuracy Format.binary64 .positive (mantissaOf n * 2 ^ 52) ((n.log2 : Int) - 52 + -52) .exact = _
  rw [product]
  exact roundWithAccuracy_shiftLeft (log2_mantissaOf small pos) (by omega) (mantissaOf_pos pos) 52

theorem toFloat_eq : n.toFloat = n.toUInt64.toFloat * Float.ofBits 0x3FF0000000000000 := by
  change Float.ofScientific n false 0 = _
  rw [Float.ofScientific, dif_pos ⟨small, by decide⟩]
  rfl

theorem toModel_toFloat : n.toFloat.toModel = Float.Model.pack (doubleOf n) := by
  rw [toFloat_eq small]
  change Float.Model.pack (UnpackedFloat.mul Format.binary64 n.toUInt64.toFloat.toModel.unpack
    (Float.ofBits 0x3FF0000000000000).toModel.unpack) = _
  rw [unpack_toUInt64_toFloat small, unpack_one, doubleOf_mul_one small]

theorem unpack_toFloat : n.toFloat.toModel.unpack = doubleOf n := by
  rw [toModel_toFloat small, unpack_pack_doubleOf small]

theorem toInt_doubleOf (low high : Int) : (doubleOf n).toInt low high = n := by
  obtain rfl | pos := Nat.eq_zero_or_pos n
  · rfl
  have le := log2_le small pos
  have amount : ((n.log2 : Int) - 52 - 0).toNat = 0 := by omega
  have back : (0 - ((n.log2 : Int) - 52 - 0)).toNat = 52 - n.log2 := by omega
  rw [doubleOf_of_pos pos]
  simp only [UnpackedFloat.toInt, roundToInt, decreaseExponent, amount, Nat.shiftLeft_zero, Int.natCast_zero,
    shiftToExponent, back, ExtendedMantissa.ofMantissaAndAccuracy, mantissaOf, shiftRight_shiftLeft]
  rfl

theorem toUInt64_toFloat : n.toFloat.toUInt64 = n.toUInt64 := by
  have fits : n < UInt64.size := Nat.lt_trans small (by decide)
  change UInt64.ofNatClamp (n.toFloat.toModel.unpack.toInt 0 (UInt64.size - 1)).toNat = _
  rw [unpack_toFloat small, toInt_doubleOf small, Int.toNat_natCast, UInt64.ofNatClamp, dif_pos fits]
  exact UInt64.ofNatLT_eq_ofNat _

theorem toNat_toUInt64_toFloat : n.toFloat.toUInt64.toNat = n := by
  rw [toUInt64_toFloat small]
  exact UInt64.toNat_ofNat_of_lt (Nat.lt_trans small (by decide))

/-! ### What the double of a number means -/

theorem isNaN_toFloat : n.toFloat.isNaN = false := by
  change n.toFloat.toModel.unpack.isNaN = false
  rw [unpack_toFloat small, doubleOf]
  split <;> rfl

theorem isInf_toFloat : n.toFloat.isInf = false := by
  change n.toFloat.toModel.unpack.isInf = false
  rw [unpack_toFloat small, doubleOf]
  split <;> rfl

theorem zero_le_toFloat : (0.0 : Float) ≤ n.toFloat := by
  refine decide_eq_true (p := (Float.toModel 0.0) ≤ n.toFloat.toModel) ?_
  change (Float.toModel 0.0).unpack.le n.toFloat.toModel.unpack = true
  rw [unpack_toFloat small, doubleOf]
  split <;> rfl

theorem not_toFloat_lt_zero : ¬n.toFloat < 0.0 := by
  intro less
  have less : n.toFloat.toModel < Float.toModel 0.0 := of_decide_eq_true less
  change n.toFloat.toModel.unpack.lt (Float.toModel 0.0).unpack = true at less
  rw [unpack_toFloat small, doubleOf] at less
  split at less <;> cases less

theorem isCount_toFloat : isCount n.toFloat = true := by
  have same : (n.toUInt64.toFloat == n.toFloat) = true := by
    change n.toUInt64.toFloat.toModel.unpack.beq n.toFloat.toModel.unpack = true
    rw [unpack_toUInt64_toFloat small, unpack_toFloat small, doubleOf]
    split <;> simp [UnpackedFloat.beq, UnpackedFloat.compare]
  rw [isCount, toUInt64_toFloat small, same, Bool.true_or, Bool.and_true]
  exact decide_eq_true (zero_le_toFloat small)

/-- A search that is told no place begins at the begin. -/
theorem relativePlace_nan : relativePlace nan n = 0 := by
  have start : toInteger nan = 0.0 := by decide +kernel
  have notLess : ¬(0.0 : Float) < 0.0 := by decide +kernel
  rw [relativePlace, start]
  simp only
  rw [if_neg notLess, if_neg (not_toFloat_lt_zero small)]
  decide +kernel

end Exact

/-! ### Sums, products and order -/

section Pairs

variable {a b : Nat}

/-- Brought to fewer places, the mantissa of a number has as many zeros less after it. -/
theorem decreaseExponent_mantissaOf {n l : Nat} (small : n < 2 ^ 53) (pos : 0 < n) (less : l ≤ n.log2) :
    decreaseExponent (mantissaOf n) ((n.log2 : Int) - 52) ((l : Int) - 52) =
      (n <<< (52 - l), -((52 - l : Nat) : Int)) := by
  have le := log2_le small pos
  have amount : ((n.log2 : Int) - 52 - ((l : Int) - 52)).toNat = n.log2 - l := by omega
  have places : 52 - n.log2 + (n.log2 - l) = 52 - l := by omega
  rw [decreaseExponent, amount, mantissaOf, ← Nat.shiftLeft_add, places]
  congr 1
  omega

/-- The mantissas of two numbers are brought to the same number of places. -/
theorem exists_aligned (smallA : a < 2 ^ 53) (smallB : b < 2 ^ 53) (posA : 0 < a) (posB : 0 < b) :
    ∃ k : Nat, min ((a.log2 : Int) - 52) ((b.log2 : Int) - 52) = -(k : Int) ∧
      decreaseExponent (mantissaOf a) ((a.log2 : Int) - 52) (-(k : Int)) = (a <<< k, -(k : Int)) ∧
      decreaseExponent (mantissaOf b) ((b.log2 : Int) - 52) (-(k : Int)) = (b <<< k, -(k : Int)) := by
  obtain ⟨l, hl⟩ : ∃ l, l = min a.log2 b.log2 := ⟨_, rfl⟩
  have le := log2_le smallA posA
  have exponent : min ((a.log2 : Int) - 52) ((b.log2 : Int) - 52) = (l : Int) - 52 := by omega
  have point : (l : Int) - 52 = -((52 - l : Nat) : Int) := by omega
  have first := decreaseExponent_mantissaOf smallA posA (hl ▸ Nat.min_le_left _ _)
  have second := decreaseExponent_mantissaOf smallB posB (hl ▸ Nat.min_le_right _ _)
  rw [point] at exponent first second
  exact ⟨52 - l, exponent, first, second⟩

/-- Doubles of numbers are added exactly if their sum has a double. -/
theorem doubleOf_add (small : a + b < 2 ^ 53) :
    UnpackedFloat.add Format.binary64 (doubleOf a) (doubleOf b) = doubleOf (a + b) := by
  obtain rfl | posA := Nat.eq_zero_or_pos a
  · rw [Nat.zero_add]
    obtain rfl | posB := Nat.eq_zero_or_pos b
    · rfl
    · rw [doubleOf_of_pos posB]
      rfl
  obtain rfl | posB := Nat.eq_zero_or_pos b
  · rw [Nat.add_zero, doubleOf_of_pos posA]
    rfl
  obtain ⟨k, exponent, first, second⟩ := exists_aligned (show a < 2 ^ 53 by omega) (show b < 2 ^ 53 by omega) posA posB
  have sum : ((a <<< k : Nat) : Int) + ((b <<< k : Nat) : Int) = (((a + b) <<< k : Nat) : Int) := by
    rw [Nat.shiftLeft_eq, Nat.shiftLeft_eq, Nat.shiftLeft_eq, Nat.add_mul, Int.natCast_add]
  rw [doubleOf_of_pos posA, doubleOf_of_pos posB]
  simp only [UnpackedFloat.add, exponent, first, second, Sign.apply]
  rw [sum]
  exact normalize_shiftLeft small _

/-- Doubles of numbers are subtracted exactly. -/
theorem doubleOf_sub (le : b ≤ a) (small : a < 2 ^ 53) :
    UnpackedFloat.sub Format.binary64 (doubleOf a) (doubleOf b) = doubleOf (a - b) := by
  obtain rfl | posB := Nat.eq_zero_or_pos b
  · obtain rfl | posA := Nat.eq_zero_or_pos a
    · rfl
    · rw [Nat.sub_zero, doubleOf_of_pos posA]
      rfl
  have posA : 0 < a := Nat.lt_of_lt_of_le posB le
  obtain ⟨k, exponent, first, second⟩ := exists_aligned small (Nat.lt_of_le_of_lt le small) posA posB
  have difference : ((a <<< k : Nat) : Int) - ((b <<< k : Nat) : Int) = (((a - b) <<< k : Nat) : Int) := by
    rw [Nat.shiftLeft_eq, Nat.shiftLeft_eq, Nat.shiftLeft_eq, Nat.sub_mul,
      Int.ofNat_sub (Nat.mul_le_mul_right _ le)]
  rw [doubleOf_of_pos posA, doubleOf_of_pos posB]
  simp only [UnpackedFloat.sub, exponent, first, second, Sign.apply]
  rw [difference]
  exact normalize_shiftLeft (Nat.lt_of_le_of_lt (Nat.sub_le a b) small) _

/-- Doubles of numbers are multiplied exactly if their product has a double. -/
theorem doubleOf_mul (small : a * b < 2 ^ 53) :
    UnpackedFloat.mul Format.binary64 (doubleOf a) (doubleOf b) = doubleOf (a * b) := by
  obtain rfl | posA := Nat.eq_zero_or_pos a
  · rw [Nat.zero_mul]
    obtain rfl | posB := Nat.eq_zero_or_pos b
    · rfl
    · rw [doubleOf_of_pos posB]
      rfl
  obtain rfl | posB := Nat.eq_zero_or_pos b
  · rw [Nat.mul_zero, doubleOf_of_pos posA]
    rfl
  have pos := Nat.mul_pos posA posB
  have leA := log2_le (Nat.lt_of_le_of_lt (Nat.le_mul_of_pos_right a posB) small) posA
  have leB := log2_le (Nat.lt_of_le_of_lt (Nat.le_mul_of_pos_left b posA) small) posB
  have le := log2_le small pos
  have least : a.log2 + b.log2 ≤ (a * b).log2 := by
    rw [Nat.le_log2 (Nat.pos_iff_ne_zero.mp pos), Nat.pow_add]
    exact Nat.mul_le_mul (Nat.log2_self_le (by omega)) (Nat.log2_self_le (by omega))
  have mantissa : mantissaOf a * mantissaOf b = mantissaOf (a * b) <<< (52 + (a * b).log2 - a.log2 - b.log2) := by
    rw [mantissaOf, mantissaOf, mantissaOf, ← Nat.shiftLeft_add, Nat.shiftLeft_eq, Nat.shiftLeft_eq, Nat.shiftLeft_eq,
      Nat.mul_mul_mul_comm, ← Nat.pow_add]
    congr 2
    omega
  have point : (a.log2 : Int) - 52 + ((b.log2 : Int) - 52) =
      ((a * b).log2 : Int) - 52 - (52 + (a * b).log2 - a.log2 - b.log2 : Nat) := by omega
  rw [doubleOf_of_pos posA, doubleOf_of_pos posB, doubleOf_of_pos pos]
  change roundWithAccuracy Format.binary64 .positive (mantissaOf a * mantissaOf b) _ .exact = _
  rw [mantissa, point]
  exact roundWithAccuracy_shiftLeft (log2_mantissaOf small pos) (by omega) (mantissaOf_pos pos) _

/-- The greater number has more digits, or as many and a greater mantissa. -/
theorem compare_digits (less : a < b) (pos : 0 < a) :
    (compare ((a.log2 : Int) - 52) ((b.log2 : Int) - 52)).then (compare (mantissaOf a) (mantissaOf b)) = .lt := by
  have order : a.log2 ≤ b.log2 := (Nat.le_log2 (by omega)).mpr (Nat.le_trans (Nat.log2_self_le (by omega)) less.le)
  rcases Nat.lt_or_eq_of_le order with fewer | same
  · rw [Std.compare_eq_lt.mpr (by omega)]
    rfl
  · have mantissas : mantissaOf a < mantissaOf b := by
      rw [mantissaOf, mantissaOf, same, Nat.shiftLeft_eq, Nat.shiftLeft_eq]
      exact Nat.mul_lt_mul_of_pos_right less (Nat.pow_pos (by decide))
    rw [same, Std.compare_eq_lt.mpr mantissas]
    simp only [Std.ReflCmp.compare_self]
    rfl

/-- Doubles of numbers compare as the numbers do. -/
theorem compare_doubleOf (smallA : a < 2 ^ 53) (smallB : b < 2 ^ 53) :
    (doubleOf a).compare (doubleOf b) = some (compare a b) := by
  obtain rfl | posA := Nat.eq_zero_or_pos a
  · obtain rfl | posB := Nat.eq_zero_or_pos b
    · rfl
    · rw [doubleOf_of_pos posB, Nat.compare_eq_lt.mpr posB]
      rfl
  obtain rfl | posB := Nat.eq_zero_or_pos b
  · rw [doubleOf_of_pos posA, Nat.compare_eq_gt.mpr posA]
    rfl
  rw [doubleOf_of_pos posA, doubleOf_of_pos posB]
  change some ((compare ((a.log2 : Int) - 52) ((b.log2 : Int) - 52)).then (compare (mantissaOf a) (mantissaOf b))) = _
  rcases Nat.lt_trichotomy a b with less | rfl | more
  · rw [compare_digits less posA, Nat.compare_eq_lt.mpr less]
  · simp only [Std.ReflCmp.compare_self]
    rfl
  · have digits := congrArg Ordering.swap (compare_digits more posB)
    rw [Ordering.swap_then, ← Std.OrientedOrd.eq_swap, ← Std.OrientedOrd.eq_swap] at digits
    rw [digits, Nat.compare_eq_gt.mpr more]
    rfl

theorem toFloat_add (small : a + b < 2 ^ 53) : a.toFloat + b.toFloat = (a + b).toFloat := by
  have smallA : a < 2 ^ 53 := by omega
  have smallB : b < 2 ^ 53 := by omega
  have models : (a.toFloat + b.toFloat).toModel = (a + b).toFloat.toModel := by
    change Float.Model.pack (UnpackedFloat.add Format.binary64 a.toFloat.toModel.unpack b.toFloat.toModel.unpack) = _
    rw [unpack_toFloat smallA, unpack_toFloat smallB, doubleOf_add small, toModel_toFloat small]
  exact congrArg Float.ofModel models

theorem toFloat_sub (le : b ≤ a) (small : a < 2 ^ 53) : a.toFloat - b.toFloat = (a - b).toFloat := by
  have models : (a.toFloat - b.toFloat).toModel = (a - b).toFloat.toModel := by
    change Float.Model.pack (UnpackedFloat.sub Format.binary64 a.toFloat.toModel.unpack b.toFloat.toModel.unpack) = _
    rw [unpack_toFloat small, unpack_toFloat (Nat.lt_of_le_of_lt le small), doubleOf_sub le small,
      toModel_toFloat (Nat.lt_of_le_of_lt (Nat.sub_le a b) small)]
  exact congrArg Float.ofModel models

theorem toFloat_mul (smallA : a < 2 ^ 53) (smallB : b < 2 ^ 53) (small : a * b < 2 ^ 53) :
    a.toFloat * b.toFloat = (a * b).toFloat := by
  have models : (a.toFloat * b.toFloat).toModel = (a * b).toFloat.toModel := by
    change Float.Model.pack (UnpackedFloat.mul Format.binary64 a.toFloat.toModel.unpack b.toFloat.toModel.unpack) = _
    rw [unpack_toFloat smallA, unpack_toFloat smallB, doubleOf_mul small, toModel_toFloat small]
  exact congrArg Float.ofModel models

theorem toFloat_lt_iff (smallA : a < 2 ^ 53) (smallB : b < 2 ^ 53) : a.toFloat < b.toFloat ↔ a < b := by
  have models : a.toFloat < b.toFloat ↔ a.toFloat.toModel.unpack.lt b.toFloat.toModel.unpack = true :=
    decide_eq_true_iff (p := a.toFloat.toModel < b.toFloat.toModel)
  rw [models, unpack_toFloat smallA, unpack_toFloat smallB, UnpackedFloat.lt, compare_doubleOf smallA smallB,
    beq_iff_eq, Option.some_inj, Nat.compare_eq_lt]

theorem toFloat_beq (smallA : a < 2 ^ 53) (smallB : b < 2 ^ 53) : (a.toFloat == b.toFloat) = (a == b) := by
  change a.toFloat.toModel.unpack.beq b.toFloat.toModel.unpack = _
  rw [unpack_toFloat smallA, unpack_toFloat smallB, UnpackedFloat.beq, compare_doubleOf smallA smallB]
  rw [Bool.eq_iff_iff, beq_iff_eq, beq_iff_eq, Option.some_inj, Nat.compare_eq_eq]

/-- The double of an index means it. -/
theorem indexOfFloat_toFloat_of_lt {n : Nat} (h : n < 4294967295) : indexOfFloat? n.toFloat = some n := by
  have small : n < 2 ^ 53 := by omega
  have bound : (4294967295.0 : Float) = Nat.toFloat 4294967295 := by decide +kernel
  have below : n.toFloat < 4294967295.0 := by
    rw [bound]
    exact (toFloat_lt_iff small (by decide)).mpr h
  rw [indexOfFloat?, isCount_toFloat small, decide_eq_true below, toNat_toUInt64_toFloat small]
  rfl

end Pairs

/-! ### Remainders -/

/-- The word of the double of a number: the place of its first digit, and the digits behind it. -/
theorem toNat_toBits_pack {n : Nat} (small : n < 2 ^ 53) (pos : 0 < n) :
    (Float.Model.pack (doubleOf n)).toBits.toNat = (n.log2 + 1022) * 2 ^ 52 + mantissaOf n := by
  have le := log2_le small pos
  have places := log2_mantissaOf small pos
  obtain ⟨mLow, mHigh⟩ := (Nat.log2_eq_iff (Nat.pos_iff_ne_zero.mp (mantissaOf_pos pos))).mp places
  have point : (n.log2 : Int) - 52 = ((n.log2 + 1023 : Nat) : Int) - 1075 := by omega
  have packed : UnpackedFloat.pack Format.binary64 (doubleOf n) =
      packComponents Format.binary64 .positive (BitVec.ofNat _ (n.log2 + 1023)) (BitVec.ofNat _ (mantissaOf n)) := by
    rw [doubleOf_of_pos pos]
    simp only [point]
    exact pack_finite places (mantissaOf_pos pos) (by omega) (by omega)
  change (UnpackedFloat.pack Format.binary64 (doubleOf n)).toNat = _
  rw [packed]
  change ((0#1 ++ BitVec.ofNat 11 (n.log2 + 1023)) ++ BitVec.ofNat 52 (mantissaOf n)).toNat = _
  have exponent : (0#1 ++ BitVec.ofNat 11 (n.log2 + 1023)).toNat = n.log2 + 1023 := by
    rw [BitVec.toNat_append, BitVec.toNat_ofNat, BitVec.toNat_ofNat, Nat.zero_mod, Nat.zero_shiftLeft, Nat.zero_or]
    exact Nat.mod_eq_of_lt (by omega)
  rw [BitVec.toNat_append, exponent, BitVec.toNat_ofNat, Nat.shiftLeft_eq, Nat.mul_comm,
    ← Nat.two_pow_add_eq_or_of_lt (Nat.mod_lt _ (by decide))]
  omega

/-- The double of a number has the mantissa and the exponent that it was given. -/
theorem parts_toFloat {n : Nat} (small : n < 2 ^ 53) (pos : 0 < n) :
    ∃ narrow, Decimal.Parts.ofFloat n.toFloat = .finite false ⟨mantissaOf n, (n.log2 : Int) - 52, narrow⟩ := by
  have le := log2_le small pos
  obtain ⟨mLow, mHigh⟩ := (Nat.log2_eq_iff (Nat.pos_iff_ne_zero.mp (mantissaOf_pos pos))).mp (log2_mantissaOf small pos)
  have word : n.toFloat.toBits.toNat = (n.log2 + 1022) * 2 ^ 52 + mantissaOf n := by
    rw [Float.toBits, toModel_toFloat small, toNat_toBits_pack small pos]
  have powers : Nat.pow 2 52 = 2 ^ 52 ∧ Nat.pow 2 11 = 2048 ∧ Nat.pow 2 (52 + 11) = 2 ^ 63 ∧
      (Int.ofNat (Nat.pow 2 (11 - 1)) - 1 + (52 : Nat) : Int) = 1075 := ⟨rfl, rfl, rfl, rfl⟩
  have fraction : ((n.log2 + 1022) * 2 ^ 52 + mantissaOf n) % 2 ^ 52 = mantissaOf n - 2 ^ 52 := by omega
  have exponent : ((n.log2 + 1022) * 2 ^ 52 + mantissaOf n) / 2 ^ 52 % 2048 = n.log2 + 1023 := by omega
  have sign : ((n.log2 + 1022) * 2 ^ 52 + mantissaOf n) / 2 ^ 63 % 2 = 0 := by omega
  have digits : 2 ^ 52 + (mantissaOf n - 2 ^ 52) = mantissaOf n := by omega
  have point : ((n.log2 + 1023 : Nat) : Int) - 1075 = (n.log2 : Int) - 52 := by omega
  rw [Decimal.Parts.ofFloat, word, Decimal.Parts.ofWord]
  simp only [powers, fraction, exponent, sign, digits, point]
  rw [if_neg (by omega), if_neg (by omega)]
  exact ⟨_, rfl⟩

theorem parts_zero : Decimal.Parts.ofFloat (Nat.toFloat 0) = .zero false := by decide +kernel

/-- Digits with zeros after them that have a double are the double of the number. -/
theorem ofScaled_shiftLeft {n k : Nat} (places : 0 < n → n.log2 + k ≤ 52) : ofScaled (n <<< k) (-(k : Int)) = n.toFloat := by
  obtain rfl | pos := Nat.eq_zero_or_pos n
  · rw [Nat.zero_shiftLeft, ofScaled, if_pos rfl]
    decide +kernel
  have small : n < 2 ^ 53 := (Nat.log2_lt (Nat.pos_iff_ne_zero.mp pos)).mp (by have := places pos; omega)
  have log := log2_shiftLeft (Nat.pos_iff_ne_zero.mp pos) k
  have fits := places pos
  have top : ¬((n <<< k).log2 : Int) + -(k : Int) < -1022 := by omega
  have first : (((n <<< k).log2 : Int) + -(k : Int) + 1022).toNat = n.log2 + 1022 := by omega
  have digits : n <<< k * Nat.pow 2 (52 - (n <<< k).log2) = mantissaOf n := by
    change n <<< k * 2 ^ _ = _
    rw [← Nat.shiftLeft_eq, ← Nat.shiftLeft_add, mantissaOf, log]
    congr 1
    omega
  have nonzero : n <<< k ≠ 0 := by
    rw [Nat.shiftLeft_eq]
    exact Nat.mul_ne_zero (Nat.pos_iff_ne_zero.mp pos) (Nat.pow_pos (by decide)).ne'
  have word : ((n.log2 + 1022) * 2 ^ 52 + mantissaOf n).toUInt64 = (Float.Model.pack (doubleOf n)).toBits := by
    rw [← toNat_toBits_pack small pos]
    exact UInt64.ofNat_toNat
  have power : Nat.pow 2 52 = 2 ^ 52 := rfl
  simp only [ofScaled, if_neg top, if_neg nonzero, first, digits, power]
  have models : (Float.ofBits (Float.Model.pack (doubleOf n)).toBits).toModel = n.toFloat.toModel := by
    rw [toModel_toFloat small]
    exact congrArg Float.Model.pack (unpack_pack_doubleOf small)
  rw [word]
  exact congrArg Float.ofModel models

/-- Doubles of numbers have the double of the remainder. -/
theorem remainder_toFloat {a b : Nat} (smallA : a < 2 ^ 53) (smallB : b < 2 ^ 53) (posB : 0 < b) :
    remainder a.toFloat b.toFloat = (a % b).toFloat := by
  obtain ⟨narrow, partsB⟩ := parts_toFloat smallB posB
  obtain rfl | posA := Nat.eq_zero_or_pos a
  · rw [remainder, parts_zero, partsB, Nat.zero_mod]
  obtain ⟨narrow', partsA⟩ := parts_toFloat smallA posA
  have leA := log2_le smallA posA
  have leB := log2_le smallB posB
  obtain ⟨k, hk⟩ : ∃ k : Nat, k + min a.log2 b.log2 = 52 := ⟨52 - min a.log2 b.log2, by omega⟩
  have exponent : min ((a.log2 : Int) - 52) ((b.log2 : Int) - 52) = -(k : Int) := by omega
  have aligned {n : Nat} (le : n.log2 ≤ 52) (least : 52 ≤ k + n.log2) :
      mantissaOf n * Nat.pow 2 ((n.log2 : Int) - 52 - -(k : Int)).toNat = n <<< k := by
    change mantissaOf n * 2 ^ _ = _
    rw [← Nat.shiftLeft_eq, mantissaOf, ← Nat.shiftLeft_add]
    congr 1
    omega
  have rest : a <<< k % b <<< k = (a % b) <<< k := by
    rw [Nat.shiftLeft_eq, Nat.shiftLeft_eq, Nat.shiftLeft_eq, Nat.mul_mod_mul_right]
  have places (pos : 0 < a % b) : (a % b).log2 + k ≤ 52 := by
    have below {m : Nat} (le : a % b ≤ m) (pos : 0 < m) : (a % b).log2 ≤ m.log2 :=
      (Nat.le_log2 (by omega)).mpr (Nat.le_trans (Nat.log2_self_le (by omega)) le)
    have := below (Nat.mod_le a b) posA
    have := below (Nat.mod_lt a posB).le posB
    omega
  rw [remainder, partsA, partsB]
  change binaryRemainder _ _ = _
  rw [binaryRemainder, exponent, aligned leA (by omega), aligned leB (by omega), rest, ofScaled_shiftLeft places]

end Pagewalk.Script.Number
