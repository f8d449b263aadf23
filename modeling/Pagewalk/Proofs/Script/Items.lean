import Pagewalk.Proofs.Script.Steps
import Pagewalk.Proofs.Text.Encodings

/-!
# Items under their numbers

An array has an item under the digits of its number. Digits are read back as the number that they write, so setting one
item leaves the others as they are, be they kept with the first items or as properties.
-/

namespace Pagewalk.Script

open Text

variable {l : Finding} {c : Context} {w : World} {o : Obj} {i j : Nat}

/-! ### Digits -/

theorem unitsOfChar_digitChar {d : Nat} (h : d < 10) : unitsOfChar d.digitChar = [(48 + d).toUInt16] := by
  have all : ∀ d : Fin 10, unitsOfChar d.val.digitChar = [(48 + d.val).toUInt16] := by decide
  exact all ⟨d, h⟩

/-- Reads one more digit of an index. -/
def readDigit (acc : Option Nat) (u : UInt16) : Option Nat :=
  acc.bind fun n => if u < 48 || u > 57 then none else some (n * 10 + (u.toNat - 48))

theorem readDigit_digit {n d : Nat} (h : d < 10) : readDigit (some n) (48 + d).toUInt16 = some (n * 10 + d) := by
  have all : ∀ d : Fin 10, ¬((48 + d.val).toUInt16 < 48 || (48 + d.val).toUInt16 > 57) = true ∧
      (48 + d.val).toUInt16.toNat - 48 = d.val := by decide
  obtain ⟨digit, value⟩ := all ⟨d, h⟩
  rw [readDigit, Option.bind_some, if_neg digit, value]

theorem foldl_toDigits (n : Nat) :
    ((Nat.toDigits 10 n).flatMap unitsOfChar).foldl readDigit (some 0) = some n := by
  induction n using Nat.strongRecOn with
  | ind n ih =>
    rw [Nat.toDigits_eq_if (by decide)]
    split
    next small =>
      rw [List.flatMap_singleton, unitsOfChar_digitChar small, List.foldl_cons, readDigit_digit small, Nat.zero_mul,
        Nat.zero_add]
      rfl
    next large =>
      have last := Nat.mod_lt n (show 10 > 0 by decide)
      rw [List.flatMap_append, List.foldl_append, ih (n / 10) (by omega), List.flatMap_singleton,
        unitsOfChar_digitChar last, List.foldl_cons, readDigit_digit last, Nat.mul_comm, Nat.div_add_mod]
      rfl

theorem foldl_indexKey (n : Nat) : (Obj.indexKey n).val.foldl readDigit (some 0) = some n := by
  have digits : (toString n).toList = Nat.toDigits 10 n := String.toList_ofList
  rw [← Array.foldl_toList]
  change ((toString n).toList.flatMap unitsOfChar).foldl readDigit (some 0) = some n
  rw [digits, foldl_toDigits]

theorem indexKey_injective : Function.Injective Obj.indexKey := fun i j h =>
  Option.some.inj (by rw [← foldl_indexKey i, h, foldl_indexKey j])

/-- Where the digits of a number are an index, it is that number. -/
theorem eq_of_index_indexKey (h : Number.index? (Obj.indexKey i) = some j) : j = i := by
  have value := foldl_indexKey i
  unfold Number.index? at h
  split at h
  · cases h
  next u first =>
    split_ifs at h with notDigit zero single
    · cases h
      obtain ⟨u', units⟩ := Array.size_eq_one_iff.mp single
      rw [units] at first value
      obtain rfl : u' = u := Option.some.inj first
      obtain rfl : u' = 48 := beq_iff_eq.mp zero
      exact Option.some.inj value
    · obtain ⟨read, -⟩ := Option.filter_eq_some_iff.mp h
      exact Option.some.inj (read.symm.trans value)

/-! ### Items -/

section Items

variable {items : Array (Option Value)} {length : Nat} {v : Value}

theorem indexKey_ne_length (i : Nat) : (Obj.indexKey i == lengthKey) = false := by
  refine beq_eq_false_iff_ne.mpr fun same => ?_
  have value := foldl_indexKey i
  rw [same, show (lengthKey : Name).val.foldl readDigit (some 0) = none by decide +kernel] at value
  cases value

/-- An array has an item among the first ones or as a property. -/
theorem own_index (array : o.shape = .array items length) (i : Nat) : o.own? (Obj.indexKey i) =
    (((Number.index? (Obj.indexKey i)).bind fun j => items[j]?.join).map .plain).or o.properties[Obj.indexKey i]? := by
  rw [Obj.own?, Obj.inherent?, array]
  dsimp only
  cases Number.index? (Obj.indexKey i) with
  | none => rw [indexKey_ne_length]; rfl
  | some j =>
    dsimp only [Option.bind_some]
    cases items[j]?.join <;> rfl

theorem properties_removeProperty (key key' : Name) (other : key ≠ key') :
    (o.removeProperty key).properties[key']? = o.properties[key']? := by
  rw [Obj.removeProperty]
  split
  · exact (Std.HashMap.getElem?_erase ..).trans (if_neg (by simpa using other))
  · rfl

theorem join_setIfInBounds (small : i < items.size) (j : Nat) :
    (items.setIfInBounds i (some v))[j]?.join = if i = j then some v else items[j]?.join := by
  rw [Array.getElem?_setIfInBounds]
  split_ifs <;> rfl

theorem join_push (large : items.size ≤ i) (j : Nat) :
    ((items ++ Array.replicate (i - items.size) none).push (some v))[j]?.join = if i = j then some v else items[j]?.join := by
  rw [Array.getElem?_push, Array.size_append, Array.size_replicate, Nat.add_sub_cancel' large]
  by_cases same : i = j
  · rw [if_pos same, if_pos same.symm]
    rfl
  · rw [if_neg same, if_neg (Ne.symm same), Array.getElem?_append, Array.getElem?_replicate]
    split_ifs with inside between
    · rfl
    · rw [Array.getElem?_eq_none (Nat.le_of_not_lt inside)]
      rfl
    · rw [Array.getElem?_eq_none (Nat.le_of_not_lt inside)]

/-- An array in which an item is set: where it stands among the first ones or as a property. -/
theorem define_index_cases (array : o.shape = .array items length) (i : Nat) (v : Value) :
    (∃ items' length', o.define (Obj.indexKey i) (.plain v) =
        { o.removeProperty (Obj.indexKey i) with shape := .array items' length' } ∧
      Number.index? (Obj.indexKey i) = some i ∧
      ∀ j, items'[j]?.join = if i = j then some v else items[j]?.join) ∨
    ∃ length', o.define (Obj.indexKey i) (.plain v) =
        { o.setProperty (Obj.indexKey i) (.plain v) with shape := .array items length' } ∧
      ∀ j, Number.index? (Obj.indexKey i) = some j → items[j]?.join = none := by
  unfold Obj.define
  rw [array]
  cases index : Number.index? (Obj.indexKey i) with
  | none =>
    refine .inr ⟨length, ?_, fun j h => nomatch h⟩
    dsimp only
    rw [indexKey_ne_length, ← array, ← shape_setProperty o (Obj.indexKey i) (.plain v)]
    rfl
  | some j =>
    obtain rfl := eq_of_index_indexKey index
    simp only [Obj.setItem, Property.plain]
    split_ifs with inside near
    · refine .inl ⟨_, _, rfl, trivial, fun k => ?_⟩
      rw [Array.set!_eq_setIfInBounds, join_setIfInBounds inside]
    · exact .inl ⟨_, _, rfl, trivial, join_push (Nat.le_of_not_lt inside)⟩
    · refine .inr ⟨_, rfl, fun k same => ?_⟩
      obtain rfl := Option.some.inj same
      rw [Array.getElem?_eq_none (Nat.le_of_not_lt inside)]
      rfl

/-- An item that is set is there, and the others are as they were. -/
theorem own_define_index (array : o.shape = .array items length) (i j : Nat) (v : Value) :
    (o.define (Obj.indexKey i) (.plain v)).own? (Obj.indexKey j) =
      if i = j then some (.plain v) else o.own? (Obj.indexKey j) := by
  rw [own_index array]
  rcases define_index_cases array i v with ⟨items', length', eq, index, among⟩ | ⟨length', eq, missing⟩ <;> rw [eq]
  · rw [own_index (o := { o.removeProperty (Obj.indexKey i) with shape := .array items' length' }) rfl]
    by_cases same : i = j
    · subst same
      rw [index, Option.bind_some, among, if_pos rfl, if_pos rfl]
      rfl
    · rw [if_neg same]
      refine congrArg₂ Option.or ?_ ?_
      · cases index' : Number.index? (Obj.indexKey j) with
        | none => rfl
        | some k =>
          obtain rfl := eq_of_index_indexKey index'
          rw [Option.bind_some, Option.bind_some, among, if_neg same]
      · exact properties_removeProperty _ _ fun h => same (indexKey_injective h)
  · rw [own_index (o := { o.setProperty (Obj.indexKey i) (.plain v) with shape := .array items length' }) rfl]
    change (Option.map _ _).or (o.setProperty _ _).properties[_]? = _
    rw [properties_setProperty, Std.HashMap.getElem?_insert]
    by_cases same : i = j
    · subst same
      rw [if_pos (by simp), if_pos rfl]
      cases index : Number.index? (Obj.indexKey i) with
      | none => rfl
      | some k => rw [Option.bind_some, missing k index]; rfl
    · rw [if_neg (by simpa using fun h => same (indexKey_injective h)), if_neg same]

end Items

end Pagewalk.Script
