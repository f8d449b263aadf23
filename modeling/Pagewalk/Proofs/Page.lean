import Pagewalk.Page

/-!
# What reading a page answers

A page that is read is the document of its text with the locations of its tags. A lenient reading refuses nothing
but what is too large.
-/

namespace Pagewalk.Document

/-- The document of a text with the locations of its tags. -/
def located (source : String) : Document := (ofText source).withLocations (Source.locate source (ofText source))

/-- The answer to a text within the limit. -/
theorem parse_of_fits {config : PageConfig} {source : String} (fits : Text.Utf8.size source ≤ config.maxBytes) :
    parse config source =
      match (ofText source).faults with
      | first :: _ =>
        if config.strict then ([], .error (.malformedMarkup first.text (ofText source).faults.length))
        else parse.finish source (ofText source)
      | [] => parse.finish source (ofText source) :=
  if_neg (Nat.not_lt.mpr fits)

/-- Where a page is read, what is read is the document of its text with locations. -/
theorem eq_located_of_parse {config : PageConfig} {source : String} {d : Document}
    (h : (parse config source).2 = .ok d) : d = located source := by
  by_cases fits : Text.Utf8.size source ≤ config.maxBytes
  · rw [parse_of_fits fits] at h
    cases hf : (ofText source).faults with
    | nil =>
      simp only [hf] at h
      exact (Except.ok.inj h).symm
    | cons first rest =>
      simp only [hf] at h
      split at h
      · cases h
      · exact (Except.ok.inj h).symm
  · rw [parse, if_pos (Nat.lt_of_not_le fits)] at h
    cases h

/-- A lenient reading refuses nothing within the limit. -/
theorem parse_of_lenient {config : PageConfig} {source : String} (fits : Text.Utf8.size source ≤ config.maxBytes)
    (lenient : config.strict = false) : (parse config source).2 = .ok (located source) := by
  rw [parse_of_fits fits]
  cases (ofText source).faults with
  | nil => rfl
  | cons first rest =>
    simp only [lenient]
    rfl

end Pagewalk.Document
