import Pagewalk.Proofs.Cycle
import Pagewalk.Proofs.Strictness
import Pagewalk.Proofs.Walk.Coverage

/-!
# The body of a fetch

A fetch brings its body as bytes or as a text that was decoded already. A cycle checks and decodes bytes itself, and a
page can also be read from bytes at once; both come to the same document or the same error. Bytes count only where no
text came with them.
-/

namespace Pagewalk

namespace Document

theorem fits_of_parse {config : PageConfig} {source : String} {d : Document} (h : (parse config source).2 = .ok d) :
    Text.Utf8.size source ≤ config.maxBytes := by
  refine Nat.le_of_not_lt fun large => ?_
  cases (parse_of_too_large large).symm.trans h

end Document

namespace Cycle
open Routine

variable {σ : Type} {config : CycleConfig} {f : Fetch}

/-! ### What is read -/

section Reading
variable {page : PageConfig} {raw : List UInt8}

theorem source_of_bytes (textless : f.content = "") (bytes : f.raw = some raw) (fits : raw.length ≤ page.maxBytes) :
    source page f = Charset.decodeBody raw f.mediaType f.charset page.strict := by
  rw [source, bytes, textless]
  exact if_neg (Nat.not_lt.mpr fits)

theorem source_of_too_large (textless : f.content = "") (bytes : f.raw = some raw) (large : page.maxBytes < raw.length) :
    source page f = ([], .error (.documentTooLarge raw.length page.maxBytes)) := by
  rw [source, bytes, textless]
  exact if_pos large

theorem source_of_text (text : f.content ≠ "" ∨ f.raw = none) : source page f = ([], .ok f.content) := by
  rw [source]
  cases bytes : f.raw with
  | none => rfl
  | some raw =>
    have text : f.content ≠ "" := text.resolve_right (by rw [bytes]; nofun)
    exact if_pos (bne_iff_ne.mpr text)

/-- The document or the error of a reading. -/
theorem reading_map_snd (page : PageConfig) (f : Fetch) :
    (reading page f).map Prod.snd = (source page f).2.bind fun html => (Document.parse page html).2 := by
  rw [reading]
  cases (source page f).2 with
  | error e => rfl
  | ok html => cases h : (Document.parse page html).2 <;> simp [bind, Except.bind, Except.map, h, pure, Except.pure]

/-- Bytes without a text are read as a page is read from bytes. -/
theorem reading_of_bytes (textless : f.content = "") (bytes : f.raw = some raw) :
    (reading page f).map Prod.snd = (Document.parseBytes page raw f.mediaType f.charset).2 := by
  rw [reading_map_snd]
  rcases Nat.lt_or_ge page.maxBytes raw.length with large | fits
  · rw [source_of_too_large textless bytes large, Document.parseBytes_of_too_large large]
    rfl
  · rw [source_of_bytes textless bytes fits, Document.parseBytes_of_fits fits]

theorem reading_of_text (text : f.content ≠ "" ∨ f.raw = none) :
    (reading page f).map Prod.snd = (Document.parse page f.content).2 := by
  rw [reading_map_snd, source_of_text text]
  rfl

end Reading

/-! ### What is told of it -/

theorem eq_of_parseEnd_mem_sequence {resource html html' : String} {page page' : OpenPage}
    (h : .parseEnd resource html' page' ∈ sequence f html page) : html' = html ∧ page' = page := by
  have elsewhere : .parseEnd resource html' page' ∉ Walk.events page.document f.resource := by
    rw [Walk.events, List.cons_append, List.mem_cons, List.mem_append, List.mem_singleton]
    rintro (no | no | no)
    · cases no
    · have kind := Walk.kind_of_mem_visit _ _ _ _ no
      simp [Event.kind] at kind
    · cases no
  rw [sequence, List.mem_cons, List.mem_cons] at h
  rcases h with no | same | no
  · cases no
  · cases same
    exact ⟨rfl, rfl⟩
  · exact absurd no elsewhere

/-- A cycle reports a reading: it tells the end with the text and the document that were read, or it ends with the
error that refused them. -/
structure Reports (f : Fetch) (text : Except Error String) (page : Except Error Document) (told : List Event)
    (answer : Option Outcome) : Prop where
  told_iff : (∃ html shown, .parseEnd f.resource html shown ∈ told) ↔ ∃ d, page = .ok d
  told_eq : ∀ resource html shown, .parseEnd resource html shown ∈ told → text = .ok html ∧ page = .ok shown.document
  refused : ∀ e, page = .error e → answer = some (.error e)

section Reported
variable {deliver : Delivery σ} {h : Hub σ}

/-- Where no emission fails, a cycle reports its reading. -/
theorem reports_read (heard : ∀ a ∈ (read config f).emissions deliver h, a.answer = some (.ok ())) :
    Reports f (source config.page f).2 ((reading config.page f).map Prod.snd)
      (((read config f).emissions deliver h).map (·.event)) ((read config f).result deliver h) := by
  cases hr : reading config.page f with
  | ok page =>
    obtain ⟨html, d⟩ := page
    obtain ⟨w, tells⟩ := tells_read deliver h hr
    rw [(tells.all_of_heard heard).1]
    have told : .parseEnd f.resource html ⟨w, d, (location f).2⟩ ∈ sequence f html ⟨w, d, (location f).2⟩ :=
      List.mem_cons_of_mem _ List.mem_cons_self
    refine ⟨iff_of_true ⟨_, _, told⟩ ⟨d, rfl⟩, fun resource html' shown told' => ?_, fun e no => ?_⟩
    · obtain ⟨rfl, rfl⟩ := eq_of_parseEnd_mem_sequence told'
      exact ⟨(reading_eq_ok hr).1, rfl⟩
    · cases no
  | error e =>
    obtain ⟨one, refused⟩ : (read config f).emissions deliver h = [.heard (.parseStart f.resource)] ∧
        (read config f).result deliver h = some (.error e) := by
      rcases read_of_error deliver h hr with alone | ⟨answer, unheard, one, -⟩
      · exact alone
      · -- The only emission would be one that failed.
        exact absurd (heard _ (one ▸ List.mem_singleton_self _)) unheard
    rw [one, refused]
    have silent {resource html : String} {shown : OpenPage} :
        .parseEnd resource html shown ∉ [Emission.heard (.parseStart f.resource)].map (·.event) := by
      simp [Emission.heard]
    refine ⟨iff_of_false ?_ ?_, fun _ _ _ told => absurd told silent, ?_⟩
    · rintro ⟨_, _, told⟩
      exact silent told
    · rintro ⟨d, no⟩
      cases no
    · rintro _ ⟨⟩
      rfl

/-- Whatever becomes of the emissions, the text that a cycle tells is within the limit. -/
theorem fits_of_parseEnd_told {resource html : String} {shown : OpenPage}
    (told : .parseEnd resource html shown ∈ ((read config f).emissions deliver h).map (·.event)) :
    Text.Utf8.size html ≤ config.page.maxBytes := by
  cases hr : reading config.page f with
  | ok page =>
    obtain ⟨text, d⟩ := page
    obtain ⟨w, tells⟩ := tells_read deliver h hr
    obtain ⟨rfl, -⟩ := eq_of_parseEnd_mem_sequence (tells.events_begin.subset told)
    exact Document.fits_of_parse (reading_eq_ok hr).2
  | error e =>
    rcases read_of_error deliver h hr with ⟨one, -⟩ | ⟨answer, -, one, -⟩ <;>
    · rw [one] at told
      simp [Emission.heard] at told

end Reported

/-- Where a text came with a fetch its bytes make no difference. -/
theorem handle_of_text (text : f.content ≠ "") (raw : Option (List UInt8)) :
    (handle config { f with raw } : Routine σ) = handle config f := by
  have same : source config.page { f with raw } = source config.page f :=
    (source_of_text (f := { f with raw }) (.inl text)).trans (source_of_text (f := f) (.inl text)).symm
  unfold handle read
  rw [same]
  rfl

/-- The two ways to hand over the body of a page come to the same. Of bytes without a text, on a hub where no emission
fails, a cycle tells the end of its reading exactly if the page can be read from the bytes at once, with the same
document and with the text to which the bytes decode; otherwise it ends with the same error. Of a text, or where there
are no bytes, it tells in the same way what is read from the text; and bytes beside a text do not change what it does.
On any hub, the text that it tells is within the limit. -/
theorem handle_bodies (config : CycleConfig) (f : Fetch) (markup : f.type = .html) (depth : Nat) (h : Hub σ) :
    let own := (handle config f).emissions (Hub.deliver depth) h
    let told := own.map (·.event)
    let answer := (handle config f).result (Hub.deliver depth) h
    ((∀ a ∈ own, a.answer = some (.ok ())) →
      (∀ raw, f.content = "" → f.raw = some raw →
        Reports f (Charset.decodeBody raw f.mediaType f.charset config.page.strict).2
          (Document.parseBytes config.page raw f.mediaType f.charset).2 told answer) ∧
      (f.content ≠ "" ∨ f.raw = none →
        Reports f (.ok f.content) (Document.parse config.page f.content).2 told answer)) ∧
    (f.content ≠ "" → ∀ raw, (handle config { f with raw } : Routine σ) = handle config f) ∧
    ∀ resource html shown, .parseEnd resource html shown ∈ told → Text.Utf8.size html ≤ config.page.maxBytes := by
  rw [handle_of_html markup]
  intro own told answer
  refine ⟨fun heard => ?_, fun text raw => (handle_of_text text raw).trans (handle_of_html markup),
    fun _ _ _ => fits_of_parseEnd_told⟩
  · have reports : Reports f (source config.page f).2 ((reading config.page f).map Prod.snd) told answer :=
      reports_read heard
    refine ⟨fun raw textless bytes => ?_, fun text => ?_⟩
    · rw [reading_of_bytes textless bytes] at reports
      refine ⟨reports.told_iff, fun resource html shown told' => ?_, reports.refused⟩
      obtain ⟨text, page⟩ := reports.told_eq resource html shown told'
      refine ⟨?_, page⟩
      rcases Nat.lt_or_ge config.page.maxBytes raw.length with large | fits
      · rw [source_of_too_large textless bytes large] at text
        cases text
      · rwa [source_of_bytes textless bytes fits] at text
    · rwa [reading_of_text text, source_of_text text] at reports

/-! ### Hubs without listeners -/

section Silent
variable {h : Hub σ} {depth : Nat}

theorem heard_announce_of_no_listeners {e : Event} {next : Unit → Routine σ}
    (rest : ∀ h : Hub σ, h.bus.listeners = [] →
      ∀ a ∈ (next ()).emissions (Hub.deliver (depth + 1)) h, a.answer = some (.ok ()))
    (silent : h.bus.listeners = []) :
    ∀ a ∈ (announce e next).emissions (Hub.deliver (depth + 1)) h, a.answer = some (.ok ()) := by
  obtain ⟨h', hd, silent'⟩ := Walk.deliver_of_no_listeners silent depth e
  intro a ha
  rw [announce, emissions_emit_some hd, List.mem_cons] at ha
  rcases ha with rfl | ha
  · rfl
  · exact rest h' silent' a ha

theorem heard_attempt_of_no_listeners {α : Type} {what resource : String} {r : Logged α} {next : α → Routine σ}
    {deliver : Delivery σ}
    (rest : ∀ (x : α) (h : Hub σ), h.bus.listeners = [] →
      ∀ a ∈ (next x).emissions deliver h, a.answer = some (.ok ()))
    (silent : h.bus.listeners = []) :
    ∀ a ∈ (attempt what resource r next).emissions deliver h, a.answer = some (.ok ()) := by
  obtain ⟨records, e | x⟩ := r
  · exact fun a ha => absurd ha List.not_mem_nil
  · exact rest x _ silent

/-- Nobody objects to what a cycle tells on a hub without listeners. -/
theorem heard_read_of_no_listeners (silent : h.bus.listeners = []) :
    ∀ a ∈ (read config f).emissions (Hub.deliver (depth + 1)) h, a.answer = some (.ok ()) := by
  rw [read_eq]
  refine heard_announce_of_no_listeners (fun h silent => ?_) silent
  rw [readOn]
  refine heard_attempt_of_no_listeners (fun html h silent => ?_) silent
  refine heard_attempt_of_no_listeners (fun d h silent => ?_) silent
  -- Neither a record nor a window adds a listener.
  exact heard_announce_of_no_listeners (fun h silent => Walk.heard_of_no_listeners d f.resource silent depth) silent

end Silent

/-- A paragraph with one letter beyond ASCII, as bytes alone. -/
def latinFetch : Fetch := ⟨"r", "", "text/html", some "latin1", "", some [0x3C, 0x70, 0x3E, 0xE9]⟩

/-- Its end is told, with the text to which the bytes decode. -/
theorem handle_bodies_latinFetch :
    let quiet : Hub Unit := ⟨{}, {}, ()⟩
    let own := (handle {} latinFetch).emissions (Hub.deliver 1) quiet
    latinFetch.type = .html ∧ (∀ a ∈ own, a.answer = some (.ok ())) ∧
      ∃ html shown, .parseEnd "r" html shown ∈ own.map (·.event) ∧ html = "<p>é" ∧
        (Document.parseBytes {} [0x3C, 0x70, 0x3E, 0xE9] "text/html" (some "latin1")).2 = .ok shown.document := by
  intro quiet own
  have markup : latinFetch.type = .html := by decide +kernel
  have heard : ∀ a ∈ own, a.answer = some (.ok ()) := by
    rw [show own = (read {} latinFetch).emissions (Hub.deliver 1) quiet from
      congrArg (fun r : Routine Unit => r.emissions (Hub.deliver 1) quiet) (handle_of_html markup)]
    exact heard_read_of_no_listeners rfl
  have chosen : Charset.choose false (Charset.labels [0x3C, 0x70, 0x3E, 0xE9] "text/html" (some "latin1")) =
      ([], .ok (some .windows1252)) := by
    rw [show Charset.labels [0x3C, 0x70, 0x3E, 0xE9] "text/html" (some "latin1") = ["latin1"] by decide +kernel,
      Charset.choose, show Charset.Encoding.ofLabel? (Text.trim "latin1") = some .windows1252 by decide +kernel]
  have letters : Charset.Encoding.windows1252.scheme.decode [0x3C, 0x70, 0x3E, 0xE9] =
      [some '<', some 'p', some '>', some 'é'] := by
    simp only [Charset.Encoding.windows1252, Charset.Scheme.decode, String.toList_append]
    -- The upper half of the encoding is written in four parts.
    iterate 4 rw [String.toList_ofList]
    decide +kernel
  have decoded : (Charset.decodeBody [0x3C, 0x70, 0x3E, 0xE9] "text/html" (some "latin1") false).2 = .ok "<p>é" := by
    rw [Charset.decodeBody, show Charset.Encoding.ofMark? [0x3C, 0x70, 0x3E, 0xE9] = none from rfl]
    simp only [chosen, Charset.Encoding.decode, letters]
    rfl
  have page : (Document.parseBytes {} [0x3C, 0x70, 0x3E, 0xE9] "text/html" (some "latin1")).2 =
      .ok (.located "<p>é") := by
    rw [Document.parseBytes_of_fits (by decide), decoded]
    exact Document.parse_of_lenient (by decide) rfl
  have reports := ((handle_bodies {} latinFetch markup 1 quiet).1 heard).1 _ rfl rfl
  obtain ⟨html, shown, told⟩ := reports.told_iff.mpr ⟨_, page⟩
  obtain ⟨text, same⟩ := reports.told_eq _ html shown told
  exact ⟨markup, heard, html, shown, told, Except.ok.inj (text.symm.trans decoded), same⟩

end Cycle

end Pagewalk
