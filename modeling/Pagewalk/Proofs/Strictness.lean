import Mathlib.Tactic.Common
import Pagewalk.Proofs.Page

/-!
# Strict readings

A strict reading answers what a lenient one answers, or it refuses the page. It refuses in two cases: the first label
that speaks for the body selects no encoding, or the page that a lenient reading finds has faults. A lenient reading
refuses neither.
-/

namespace Pagewalk

/-! ### Labels -/

namespace Charset

/-- A label selects an encoding. -/
def IsKnown (label : String) : Prop := (Encoding.ofLabel? (Text.trim label)).isSome = true

instance (label : String) : Decidable (IsKnown label) := inferInstanceAs (Decidable (_ = true))

/-- Some label selects no encoding, and no label before it selects one. -/
def Misleads (labels : List String) : Prop :=
  ∃ before label after, labels = before ++ label :: after ∧ ¬IsKnown label ∧ ∀ l ∈ before, ¬IsKnown l

section Choosing
variable {label : String} {rest labels : List String}

theorem not_misleads_nil : ¬Misleads [] := by
  rintro ⟨before, label, after, split, -⟩
  simp at split

/-- What comes after the first label makes no difference. -/
theorem misleads_cons_iff : Misleads (label :: rest) ↔ ¬IsKnown label := by
  constructor
  · rintro ⟨before, unknown, after, split, hunknown, earlier⟩
    cases before with
    | nil =>
      cases split
      exact hunknown
    | cons first before =>
      cases split
      exact earlier _ List.mem_cons_self
  · exact fun unknown => ⟨[], label, rest, rfl, unknown, List.forall_mem_nil _⟩

theorem choose_of_isKnown (rest : List String) (known : IsKnown label) :
    ∃ e, ∀ strict, choose strict (label :: rest) = ([], .ok (some e)) := by
  obtain ⟨e, he⟩ := Option.isSome_iff_exists.mp known
  exact ⟨e, fun strict => by simp only [choose, he]⟩

theorem choose_of_not_isKnown (unknown : ¬IsKnown label) (strict : Bool) :
    choose strict (label :: rest) = if strict then ([], .error (.unknownCharset label))
      else (ignoredLabel label :: (choose strict rest).1, (choose strict rest).2) := by
  rw [choose, Option.not_isSome_iff_eq_none.mp unknown]

/-- A lenient reading finds its encoding among any labels. -/
theorem choose_lenient (labels : List String) : ∃ chosen, (choose false labels).2 = .ok chosen := by
  induction labels with
  | nil => exact ⟨none, rfl⟩
  | cons label rest ih =>
    by_cases known : IsKnown label
    · obtain ⟨e, chosen⟩ := choose_of_isKnown rest known
      exact ⟨some e, by rw [chosen]⟩
    · rw [choose_of_not_isKnown known]
      exact ih

theorem choose_of_misleads (h : Misleads labels) :
    ∃ label, (choose true labels).2 = .error (.unknownCharset label) := by
  cases labels with
  | nil => exact absurd h not_misleads_nil
  | cons label rest => exact ⟨label, by rw [choose_of_not_isKnown (misleads_cons_iff.mp h)]; rfl⟩

theorem choose_of_not_misleads (h : ¬Misleads labels) (strict : Bool) :
    (choose strict labels).2 = (choose false labels).2 := by
  cases labels with
  | nil => rfl
  | cons label rest =>
    have known : IsKnown label := not_not.mp fun unknown => h (misleads_cons_iff.mpr unknown)
    obtain ⟨e, chosen⟩ := choose_of_isKnown rest known
    rw [chosen strict, chosen false]

end Choosing

/-! ### Bodies -/

section Bodies
variable (body : List UInt8) (mediaType : String) (declared : Option String)

/-- The labels that speak for a body mislead a strict reading: there is no mark that decides before them. -/
def IsMisnamed : Prop := Encoding.ofMark? body = none ∧ Misleads (labels body mediaType declared)

/-- A reading of a body ends as its choice of an encoding does. -/
theorem decodeBody_of_no_mark (noMark : Encoding.ofMark? body = none) (strict : Bool) :
    (decodeBody body mediaType declared strict).2 =
      (choose strict (labels body mediaType declared)).2.map fun chosen =>
        chosen.elim (Text.Utf8.lossy body) fun e => (e.decode body).1 := by
  rw [decodeBody, noMark]
  obtain ⟨records, chosen⟩ := choose strict (labels body mediaType declared)
  rcases chosen with e | _ | e <;> rfl

theorem decodeBody_lenient : ∃ text, (decodeBody body mediaType declared false).2 = .ok text := by
  cases mark : Encoding.ofMark? body with
  | some marked =>
    rw [decodeBody, mark]
    exact ⟨_, rfl⟩
  | none =>
    obtain ⟨chosen, hchosen⟩ := choose_lenient (labels body mediaType declared)
    rw [decodeBody_of_no_mark _ _ _ mark, hchosen]
    exact ⟨_, rfl⟩

variable {body mediaType declared}

theorem decodeBody_of_isMisnamed (h : IsMisnamed body mediaType declared) :
    ∃ label, (decodeBody body mediaType declared true).2 = .error (.unknownCharset label) := by
  obtain ⟨noMark, misleads⟩ := h
  obtain ⟨label, refused⟩ := choose_of_misleads misleads
  exact ⟨label, by rw [decodeBody_of_no_mark _ _ _ noMark, refused]; rfl⟩

theorem decodeBody_of_not_isMisnamed (h : ¬IsMisnamed body mediaType declared) (strict : Bool) :
    (decodeBody body mediaType declared strict).2 = (decodeBody body mediaType declared false).2 := by
  cases mark : Encoding.ofMark? body with
  | some marked => rw [decodeBody, decodeBody, mark]
  | none =>
    have leads : ¬Misleads (labels body mediaType declared) := fun misleads => h ⟨mark, misleads⟩
    rw [decodeBody_of_no_mark _ _ _ mark, decodeBody_of_no_mark _ _ _ mark, choose_of_not_misleads leads]

end Bodies

end Charset

/-! ### Pages -/

namespace Document

section Texts
variable {config : PageConfig} {limit : Nat} {source : String}

theorem parse_of_too_large (large : config.maxBytes < Text.Utf8.size source) :
    (parse config source).2 = .error (.documentTooLarge (Text.Utf8.size source) config.maxBytes) := by
  rw [parse, if_pos large]

theorem parse_of_faultless (fits : Text.Utf8.size source ≤ config.maxBytes) (none : (located source).faults = []) :
    (parse config source).2 = .ok (located source) := by
  change (ofText source).faults = [] at none
  rw [parse_of_fits fits, none]
  rfl

theorem parse_of_faults (fits : Text.Utf8.size source ≤ config.maxBytes) (strict : config.strict = true)
    (some : (located source).faults ≠ []) :
    ∃ first count, (parse config source).2 = .error (.malformedMarkup first count) := by
  obtain ⟨first, rest, faults⟩ := List.exists_cons_of_ne_nil some
  change (ofText source).faults = _ at faults
  rw [parse_of_fits fits, faults]
  simp only [strict, if_true]
  exact ⟨_, _, rfl⟩

/-- A strict reading of a text answers as a lenient one does, if that does not find a page with faults. -/
theorem parse_strict_eq (h : ∀ d, (parse ⟨limit, false⟩ source).2 = .ok d → d.faults = []) :
    (parse ⟨limit, true⟩ source).2 = (parse ⟨limit, false⟩ source).2 := by
  rcases Nat.lt_or_ge limit (Text.Utf8.size source) with large | fits
  · rw [parse_of_too_large large, parse_of_too_large large]
  · have lenient : (parse ⟨limit, false⟩ source).2 = .ok (located source) := parse_of_lenient fits rfl
    rw [lenient, parse_of_faultless fits (h _ lenient)]

end Texts

section Bytes
variable {limit : Nat} {body : List UInt8} {mediaType : String} {charset : Option String}

/-- A body within the limit is read as the text that it decodes to. -/
theorem parseBytes_of_fits {config : PageConfig} (fits : body.length ≤ config.maxBytes) :
    (parseBytes config body mediaType charset).2 =
      (Charset.decodeBody body mediaType charset config.strict).2.bind fun text => (parse config text).2 := by
  rw [parseBytes, if_neg (Nat.not_lt.mpr fits)]
  obtain ⟨records, text⟩ := Charset.decodeBody body mediaType charset config.strict
  cases text <;> rfl

theorem parseBytes_of_too_large {config : PageConfig} (large : config.maxBytes < body.length) :
    (parseBytes config body mediaType charset).2 = .error (.documentTooLarge body.length config.maxBytes) := by
  rw [parseBytes, if_pos large]

/-- A lenient reading refuses only what is too large. -/
theorem parseBytes_lenient {e : Error} (h : (parseBytes ⟨limit, false⟩ body mediaType charset).2 = .error e) :
    ∃ size, e = .documentTooLarge size limit := by
  rcases Nat.lt_or_ge limit body.length with large | fits
  · rw [parseBytes_of_too_large large] at h
    cases h
    exact ⟨_, rfl⟩
  · obtain ⟨text, decoded⟩ := Charset.decodeBody_lenient body mediaType charset
    rw [parseBytes_of_fits fits, decoded] at h
    change (parse ⟨limit, false⟩ text).2 = _ at h
    rcases Nat.lt_or_ge limit (Text.Utf8.size text) with large | fits
    · rw [parse_of_too_large large] at h
      cases h
      exact ⟨_, rfl⟩
    · cases (parse_of_lenient fits rfl).symm.trans h

/-- Where no label misleads it, a strict reading refuses the pages with faults that a lenient one finds, and nothing
else that this accepts. -/
theorem parseBytes_strict_cases (named : limit < body.length ∨ ¬Charset.IsMisnamed body mediaType charset) :
    (∃ d first count, (parseBytes ⟨limit, false⟩ body mediaType charset).2 = .ok d ∧ d.faults ≠ [] ∧
        (parseBytes ⟨limit, true⟩ body mediaType charset).2 = .error (.malformedMarkup first count)) ∨
      ((parseBytes ⟨limit, true⟩ body mediaType charset).2 = (parseBytes ⟨limit, false⟩ body mediaType charset).2 ∧
        ∀ d, (parseBytes ⟨limit, false⟩ body mediaType charset).2 = .ok d → d.faults = []) := by
  rcases Nat.lt_or_ge limit body.length with large | fits
  · rw [parseBytes_of_too_large large, parseBytes_of_too_large large]
    exact .inr ⟨rfl, nofun⟩
  · obtain ⟨text, decoded⟩ := Charset.decodeBody_lenient body mediaType charset
    have named := named.resolve_left (Nat.not_lt.mpr fits)
    rw [parseBytes_of_fits fits, parseBytes_of_fits fits, Charset.decodeBody_of_not_isMisnamed named true, decoded]
    change (∃ d first count, (parse ⟨limit, false⟩ text).2 = .ok d ∧ _ ∧ (parse ⟨limit, true⟩ text).2 = _) ∨
      ((parse ⟨limit, true⟩ text).2 = (parse ⟨limit, false⟩ text).2 ∧ _)
    by_cases faulty : ∃ d, (parse ⟨limit, false⟩ text).2 = .ok d ∧ d.faults ≠ []
    · obtain ⟨d, found, faults⟩ := faulty
      have fitting : Text.Utf8.size text ≤ limit := Nat.le_of_not_lt fun large => by
        cases (parse_of_too_large large).symm.trans found
      cases eq_located_of_parse found
      obtain ⟨first, count, refused⟩ : ∃ first count,
          (parse ⟨limit, true⟩ text).2 = .error (.malformedMarkup first count) := parse_of_faults fitting rfl faults
      exact .inl ⟨_, first, count, found, faults, refused⟩
    · have faultless : ∀ d, (parse ⟨limit, false⟩ text).2 = .ok d → d.faults = [] := fun d found =>
        not_not.mp fun faults => faulty ⟨d, found, faults⟩
      exact .inr ⟨parse_strict_eq faultless, faultless⟩

end Bytes

/-- A strict reading of a body is a filter of the lenient one. Both answer the same, document and error alike, or the
strict one refuses. It refuses a label exactly if the body is not too large and has no mark, and a label that selects
no encoding comes before all that select one. If it does not, it refuses the markup exactly if the lenient reading
finds a document with faults. The lenient reading refuses neither labels nor markup; and where the strict one decodes
the body at all, both decode it to the same text. -/
theorem parseBytes_strict (limit : Nat) (body : List UInt8) (mediaType : String) (charset : Option String) :
    let strict := (parseBytes ⟨limit, true⟩ body mediaType charset).2
    let lenient := (parseBytes ⟨limit, false⟩ body mediaType charset).2
    let misnamed := body.length ≤ limit ∧ Charset.Encoding.ofMark? body = none ∧
      Charset.Misleads (Charset.labels body mediaType charset)
    (strict = lenient ∨ ∃ e, strict = .error e ∧
        (e.code = "parse.unknown_charset" ∨ e.code = "parse.malformed_markup")) ∧
      ((∃ e, strict = .error e ∧ e.code = "parse.unknown_charset") ↔ misnamed) ∧
      (¬misnamed → ((∃ e, strict = .error e ∧ e.code = "parse.malformed_markup") ↔
        ∃ d, lenient = .ok d ∧ d.faults ≠ [])) ∧
      (∀ e, lenient = .error e → e.code ≠ "parse.unknown_charset" ∧ e.code ≠ "parse.malformed_markup") ∧
      ∀ text, (Charset.decodeBody body mediaType charset true).2 = .ok text →
        (Charset.decodeBody body mediaType charset false).2 = .ok text := by
  intro strict lenient misnamed
  have refusesNeither : ∀ e, lenient = .error e →
      e.code ≠ "parse.unknown_charset" ∧ e.code ≠ "parse.malformed_markup" := by
    intro e he
    obtain ⟨size, rfl⟩ := parseBytes_lenient he
    exact ⟨by simp [Error.code], by simp [Error.code]⟩
  have sameText : ∀ text, (Charset.decodeBody body mediaType charset true).2 = .ok text →
      (Charset.decodeBody body mediaType charset false).2 = .ok text := by
    intro text decoded
    by_cases h : Charset.IsMisnamed body mediaType charset
    · obtain ⟨label, refused⟩ := Charset.decodeBody_of_isMisnamed h
      cases refused.symm.trans decoded
    · rw [← Charset.decodeBody_of_not_isMisnamed h true, decoded]
  by_cases h : misnamed
  · obtain ⟨fits, marked⟩ := h
    obtain ⟨label, refused⟩ := Charset.decodeBody_of_isMisnamed marked
    have ends : strict = .error (.unknownCharset label) := by
      change (parseBytes _ _ _ _).2 = _
      rw [parseBytes_of_fits fits, refused]
      rfl
    exact ⟨.inr ⟨_, ends, .inl rfl⟩, iff_of_true ⟨_, ends, rfl⟩ ⟨fits, marked⟩, fun no => absurd ⟨fits, marked⟩ no,
      refusesNeither, sameText⟩
  -- Where no encoding is refused, or nothing is decoded at all, only faults tell the readings apart.
  · have named : limit < body.length ∨ ¬Charset.IsMisnamed body mediaType charset := by
      rcases Nat.lt_or_ge limit body.length with large | fits
      · exact .inl large
      · exact .inr fun marked => h ⟨fits, marked⟩
    rcases parseBytes_strict_cases named with ⟨d, first, count, found, faults, ends⟩ | ⟨same, faultless⟩
    · refine ⟨.inr ⟨_, ends, .inr rfl⟩, iff_of_false ?_ h, fun _ => iff_of_true ⟨_, ends, rfl⟩ ⟨d, found, faults⟩,
        refusesNeither, sameText⟩
      rintro ⟨e, he, hcode⟩
      cases ends.symm.trans he
      simp [Error.code] at hcode
    · refine ⟨.inl same, iff_of_false ?_ h, fun _ => iff_of_false ?_ ?_, refusesNeither, sameText⟩
      · rintro ⟨e, he, hcode⟩
        exact (refusesNeither e (same.symm.trans he)).1 hcode
      · rintro ⟨e, he, hcode⟩
        exact (refusesNeither e (same.symm.trans he)).2 hcode
      · rintro ⟨d, found, faults⟩
        exact faults (faultless d found)

end Document

end Pagewalk
