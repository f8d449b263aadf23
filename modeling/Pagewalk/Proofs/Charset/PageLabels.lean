import Pagewalk.Proofs.Charset.Precedence

/-!
# Labels in the text of a page

A label is looked for in the whole text at the start of a page, not in its `<meta` tags alone. So the media type and the
declaration decide alone exactly for those bodies in which no label can be read at any place there. A label that can be read
anywhere, in text, in an attribute or in a comment, decides before them, or ends a strict reading.
-/

namespace Pagewalk.Charset

open Text

/-- The answer for a body comes from the media type and the declaration, whatever they are. -/
def Undisturbed (body : List UInt8) : Prop :=
  ∀ (mediaType : String) (declared : Option String) (strict : Bool), ∃ media : Option String,
    (∀ l, media = some l ↔ FirstDeclared mediaType l) ∧
      decodeBody body mediaType declared strict = answerBy strict body (media.toList ++ declared.toList)

section Page
variable {body : List UInt8} {label : String}

theorem labelInMediaType?_empty : labelInMediaType? "" = none := rfl

/-- A label of the page that selects an encoding decides, and one that selects none is reported or refused. -/
theorem decodeBody_of_page (unmarked : Encoding.ofMark? body = none) (page : labelInPage? body = some label)
    (mediaType : String) (declared : Option String) (strict : Bool) :
    decodeBody body mediaType declared strict =
      answerBy strict body (label :: ((labelInMediaType? mediaType).toList ++ declared.toList)) := by
  rw [decodeBody_eq_answerBy unmarked, labels_eq, page]
  rfl

theorem undisturbed_iff (unmarked : Encoding.ofMark? body = none) : Undisturbed body ↔ labelInPage? body = none := by
  constructor
  · intro undisturbed
    cases page : labelInPage? body with
    | none => rfl
    | some label =>
      exfalso
      have alone (declared : Option String) (strict : Bool) : answerBy strict body (label :: declared.toList) =
          answerBy strict body declared.toList := by
        obtain ⟨media, hmedia, eq⟩ := undisturbed "" declared strict
        have none : media = none := by
          rw [Option.eq_none_iff_forall_ne_some]
          intro l same
          have found := labelInMediaType?_eq_some_iff.mpr ((hmedia l).mp same)
          rw [labelInMediaType?_empty] at found
          cases found
        rw [decodeBody_of_page unmarked page, none, labelInMediaType?_empty] at eq
        exact eq
      -- A strict reading tells the label of the page by an unknown label behind it, or by the lack of one.
      cases selected : Encoding.ofLabel? (trim label) with
      | some e =>
        have refused := alone (some "") true
        rw [answerBy_of_isKnown selected, Option.toList_some, answerBy_of_not_isKnown (by decide +kernel)] at refused
        simp at refused
      | none =>
        have unknown : ¬ IsKnown label := by simp [IsKnown, selected]
        have refused := alone none true
        rw [answerBy_of_not_isKnown unknown, Option.toList_none, answerBy_nil] at refused
        cases refused
  · intro nothing mediaType declared strict
    refine ⟨_, fun l => labelInMediaType?_eq_some_iff, ?_⟩
    rw [decodeBody_eq_answerBy unmarked, labels_eq, nothing]
    rfl

end Page

/-- The answer for a body without a byte order mark comes from the media type and the declaration alone, whatever they are,
exactly if no label can be read at any place in its first 8192 bytes. The first label that can be read there decides before
them if it selects an encoding. If it selects none, a strict reading is refused with it and a lenient one reports it. -/
theorem decodeBody_undisturbed_iff {body : List UInt8} (unmarked : ∀ m ∈ marks, ¬ m.1 <+: body) :
    (Undisturbed body ↔ ∀ rest, rest <:+ (Utf8.lossy (body.take 8192)).toList → ∀ l, ¬ LabelAt rest l) ∧
    ∀ label, FirstLabel (Utf8.lossy (body.take 8192)).toList label → ∀ (mediaType : String) (declared : Option String),
      (∀ e, Encoding.ofLabel? (trim label) = some e → ∀ strict, decodeBody body mediaType declared strict =
        (if (e.decode body).2 then [malformedBody e] else [], .ok (e.decode body).1)) ∧
      (¬ IsKnown label →
        decodeBody body mediaType declared true = ([], .error (.unknownCharset label)) ∧
        ∃ records text, decodeBody body mediaType declared false = (ignoredLabel label :: records, .ok text)) := by
  have unmarked := ofMark?_eq_none_iff.mpr unmarked
  refine ⟨(undisturbed_iff unmarked).trans labelInPage?_eq_none_iff, fun label first mediaType declared => ?_⟩
  have page := labelInPage?_eq_some_iff.mpr first
  refine ⟨fun e selected strict => ?_, fun unknown => ⟨?_, ?_⟩⟩
  · rw [decodeBody_of_page unmarked page, answerBy_of_isKnown selected]
  · rw [decodeBody_of_page unmarked page, answerBy_of_not_isKnown unknown]
    rfl
  · obtain ⟨text, read⟩ := decodeBody_lenient body mediaType declared
    rw [decodeBody_of_page unmarked page, answerBy_of_not_isKnown unknown] at read ⊢
    exact ⟨_, text, Prod.ext rfl read⟩

/-- A page that says what its charset is, and not in a tag. -/
def klingonText : String := "<p>charset=klingon it is</p>"

/-- A page with a label in its text, and with a letter beyond ASCII. -/
def latinText : String := "<p>charset=latin1 é</p>"

theorem labelInPage?_latinText : labelInPage? (Utf8.encode latinText) = some "latin1" := by rfl

theorem ofLabel?_latin1 : Encoding.ofLabel? (trim "latin1") = some .windows1252 := by decide +kernel

theorem decode_latinText : Encoding.windows1252.decode (Utf8.encode latinText) = ("<p>charset=latin1 Ã©</p>", false) := by
  simp only [Encoding.decode, Scheme.decode, Encoding.windows1252, String.toList_append]
  -- The upper half of the encoding is written in four parts.
  iterate 4 rw [String.toList_ofList]
  decide +kernel

/-- The label in the text decides before that of the media type, and the letter becomes two. -/
theorem decodeBody_undisturbed_iff_latinText :
    (∀ m ∈ marks, ¬ m.1 <+: Utf8.encode latinText) ∧ ¬ Undisturbed (Utf8.encode latinText) ∧
      FirstLabel (Utf8.lossy ((Utf8.encode latinText).take 8192)).toList "latin1" ∧
      Encoding.ofLabel? (trim "latin1") = some .windows1252 ∧
      decodeBody (Utf8.encode latinText) "text/html; charset=utf-8" none true = ([], .ok "<p>charset=latin1 Ã©</p>") := by
  have unmarked : ∀ m ∈ marks, ¬ m.1 <+: Utf8.encode latinText := by decide
  have first : FirstLabel (Utf8.lossy ((Utf8.encode latinText).take 8192)).toList "latin1" :=
    labelInPage?_eq_some_iff.mp labelInPage?_latinText
  obtain ⟨undisturbed, decides⟩ := decodeBody_undisturbed_iff unmarked
  refine ⟨unmarked, fun no => ?_, first, ofLabel?_latin1, ?_⟩
  · obtain ⟨rest, suffix, said, -⟩ := first
    exact undisturbed.mp no rest suffix _ said
  · rw [(decides _ first "text/html; charset=utf-8" none).1 _ ofLabel?_latin1, decode_latinText]
    rfl

/-- Both pages hold no `<meta`, and nothing is declared. The text of one is refused for its label, and that of the other is
read in the encoding of its label. -/
theorem decodeBody_disturbed :
    (¬ "<meta".toList <:+: (lower klingonText).toList ∧ (∀ m ∈ marks, ¬ m.1 <+: Utf8.encode klingonText) ∧
      decodeBody (Utf8.encode klingonText) "text/html" none true = ([], .error (.unknownCharset "klingon")) ∧
      answerBy true (Utf8.encode klingonText) [] = ([], .ok klingonText)) ∧
    (¬ "<meta".toList <:+: (lower latinText).toList ∧ (∀ m ∈ marks, ¬ m.1 <+: Utf8.encode latinText) ∧
      decodeBody (Utf8.encode latinText) "text/html" none false = ([], .ok "<p>charset=latin1 Ã©</p>") ∧
      answerBy false (Utf8.encode latinText) [] = ([], .ok latinText)) := by
  have page : labelInPage? (Utf8.encode klingonText) = some "klingon" := by rfl
  refine ⟨⟨by decide +kernel, by decide, ?_, by rfl⟩, by decide +kernel, by decide, ?_, by rfl⟩
  · rw [decodeBody_of_page (by rfl) page, answerBy_of_not_isKnown not_isKnown_klingon]
    rfl
  · rw [decodeBody_of_page (by rfl) labelInPage?_latinText, answerBy_of_isKnown ofLabel?_latin1,
      decode_latinText]
    rfl

end Pagewalk.Charset
