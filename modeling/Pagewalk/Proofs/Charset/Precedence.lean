import Pagewalk.Proofs.Charset.Labels
import Pagewalk.Proofs.Strictness

/-!
# Which label decides

A byte order mark decides alone. Without one the labels of the page, of the media type and of the declaration are looked at
in this order, and the first that selects an encoding decides; those before it are reported, or the first of them ends a
strict reading, and those behind it make no difference.
-/

namespace Pagewalk.Charset

open Text

/-- The byte order marks and the encodings that they announce. -/
def marks : List (List UInt8 × Encoding) :=
  [([0xEF, 0xBB, 0xBF], .utf8), ([0xFF, 0xFE], .utf16le), ([0xFE, 0xFF], .utf16be)]

/-- The answer for a body when some labels were passed over, and then an encoding was selected or none was left. -/
def answer (strict : Bool) (body : List UInt8) (passed : List String) (selected : Option Encoding) :
    List Log.Record × Except Error String :=
  match strict, passed with
  | true, label :: _ => ([], .error (.unknownCharset label))
  | _, _ =>
    match selected with
    | none => (passed.map ignoredLabel, .ok (Utf8.lossy body))
    | some e => (passed.map ignoredLabel ++ if (e.decode body).2 then [malformedBody e] else [], .ok (e.decode body).1)

/-- The answer for a body by some labels. -/
def answerBy (strict : Bool) (body : List UInt8) (labels : List String) : List Log.Record × Except Error String :=
  answer strict body (labels.takeWhile (¬ IsKnown ·)) (labels.findSome? fun l => Encoding.ofLabel? (trim l))

section Precedence
variable {body rest : List UInt8} {e : Encoding} {label : String} {labels passed left : List String} {strict : Bool}

theorem ofMark?_eq_some_iff : Encoding.ofMark? body = some (e, rest) ↔ ∃ mark, (mark, e) ∈ marks ∧ body = mark ++ rest := by
  constructor
  · intro h
    unfold Encoding.ofMark? at h
    split at h <;> cases h
    · exact ⟨[0xEF, 0xBB, 0xBF], by simp [marks], rfl⟩
    · exact ⟨[0xFF, 0xFE], by simp [marks], rfl⟩
    · exact ⟨[0xFE, 0xFF], by simp [marks], rfl⟩
  · rintro ⟨mark, among, rfl⟩
    simp only [marks, List.mem_cons, Prod.mk.injEq, List.not_mem_nil, or_false] at among
    rcases among with ⟨rfl, rfl⟩ | ⟨rfl, rfl⟩ | ⟨rfl, rfl⟩ <;> rfl

theorem ofMark?_eq_none_iff : Encoding.ofMark? body = none ↔ ∀ m ∈ marks, ¬ m.1 <+: body := by
  constructor
  · rintro none ⟨mark, e⟩ among ⟨rest, rfl⟩
    have found : Encoding.ofMark? (mark ++ rest) = some (e, rest) := ofMark?_eq_some_iff.mpr ⟨mark, among, rfl⟩
    exact absurd (none.symm.trans found) nofun
  · intro unmarked
    cases found : Encoding.ofMark? body with
    | none => rfl
    | some marked =>
      obtain ⟨mark, among, eq⟩ := ofMark?_eq_some_iff.mp found
      exact absurd ⟨_, eq.symm⟩ (unmarked _ among)

theorem answerBy_nil (strict : Bool) (body : List UInt8) : answerBy strict body [] = ([], .ok (Utf8.lossy body)) := by
  cases strict <;> rfl

theorem answerBy_of_isKnown (selected : Encoding.ofLabel? (trim label) = some e) (strict : Bool) (body : List UInt8)
    (rest : List String) : answerBy strict body (label :: rest) =
      (if (e.decode body).2 then [malformedBody e] else [], .ok (e.decode body).1) := by
  have known : IsKnown label := by rw [IsKnown, selected]; rfl
  rw [answerBy, List.takeWhile_cons, if_neg (by simpa using known), List.findSome?_cons, selected]
  cases strict <;> rfl

theorem answerBy_of_not_isKnown (unknown : ¬ IsKnown label) (strict : Bool) (body : List UInt8) (rest : List String) :
    answerBy strict body (label :: rest) = if strict then ([], .error (.unknownCharset label))
      else (ignoredLabel label :: (answerBy false body rest).1, (answerBy false body rest).2) := by
  have none : Encoding.ofLabel? (trim label) = none := Option.not_isSome_iff_eq_none.mp unknown
  rw [answerBy, List.takeWhile_cons, if_pos (by simpa using unknown), List.findSome?_cons, none]
  cases strict with
  | true => rfl
  | false =>
    simp only [answerBy, answer, Bool.false_eq_true, if_false]
    split <;> rfl

theorem labels_eq (body : List UInt8) (mediaType : String) (declared : Option String) :
    Charset.labels body mediaType declared =
      (labelInPage? body).toList ++ ((labelInMediaType? mediaType).toList ++ declared.toList) := by
  rw [Charset.labels]
  cases labelInPage? body <;> cases labelInMediaType? mediaType <;> cases declared <;> rfl

/-- Without a mark the labels decide. -/
theorem decodeBody_eq_answerBy (noMark : Encoding.ofMark? body = none) (mediaType : String) (declared : Option String)
    (strict : Bool) :
    decodeBody body mediaType declared strict = answerBy strict body (Charset.labels body mediaType declared) := by
  rw [decodeBody, noMark]
  generalize Charset.labels body mediaType declared = labels
  induction labels with
  | nil => rw [answerBy_nil]; rfl
  | cons label rest ih =>
    cases selected : Encoding.ofLabel? (trim label) with
    | some e =>
      rw [answerBy_of_isKnown selected]
      simp only [choose, selected]
      split <;> simp_all
    | none =>
      have unknown : ¬ IsKnown label := by simp [IsKnown, selected]
      rw [answerBy_of_not_isKnown unknown, choose_of_not_isKnown unknown]
      cases strict with
      | true => rfl
      | false =>
        rw [← ih]
        rcases choose false rest with ⟨records, error | _ | e⟩
        · rfl
        · rfl
        · cases malformed : (e.decode body).2 <;> simp [malformed]

end Precedence

theorem not_isKnown_klingon : ¬ IsKnown "klingon" := by decide +kernel

end Pagewalk.Charset
