import Pagewalk.Command.Arguments
import Mathlib.Data.List.Induction

/-!
# The grammar of command lines

A command line is made of parts: the flag for strict reading, the flag of a setting with the word after it, whatever that
is, and the input. It is read from left to right, part by part, up to the first word with which no part begins: there is
none left, help is asked for, or what is left is refused. Of what was read before, a request has the last value of each
setting and the values of all scripts.
-/

namespace Pagewalk.Command

/-! ### Single words -/

theorem Setting.ofFlag?_eq_some_iff {word : String} {s : Setting} : Setting.ofFlag? word = some s ↔ word = s.flag := by
  constructor
  · intro h
    rw [Setting.ofFlag?] at h
    have found := List.find?_some h
    exact (beq_iff_eq.mp found).symm
  · rintro rfl
    exact s.ofFlag?_flag

/-- A word begins like a flag. -/
def IsFlag (word : String) : Prop := word.startsWith "--" = true

/-- What a word is where no value is due. -/
inductive Word.Reads (word : String) : Word → Prop where
  | help (h : word = "-h" ∨ word = "--help") : Reads word .help
  | strict (h : word = "--strict") : Reads word .strict
  | setting {s : Setting} (h : word = s.flag) : Reads word (.setting s)
  | unknown (flag : IsFlag word) (help : word ≠ "--help") (strict : word ≠ "--strict") (setting : ∀ s : Setting, word ≠ s.flag) :
    Reads word .unknown
  | input (flag : ¬ IsFlag word) (help : word ≠ "-h") : Reads word .input

theorem Word.reads_of (word : String) : Word.Reads word (Word.of word) := by
  unfold Word.of
  split
  next help => exact .help (by simpa using help)
  next help =>
    split
    next strict => exact .strict (beq_iff_eq.mp strict)
    next strict =>
      split
      next s found => exact .setting (Setting.ofFlag?_eq_some_iff.mp found)
      next none =>
        have apart (s : Setting) : word ≠ s.flag := fun same => by
          rw [Setting.ofFlag?_eq_some_iff.mpr same] at none
          cases none
        simp only [Bool.or_eq_true, beq_iff_eq, not_or] at help strict
        split
        next flag => exact .unknown flag help.2 strict apart
        next flag => exact .input flag help.1

/-- A word is one thing. -/
theorem Word.of_eq_iff {word : String} {t : Word} : Word.of word = t ↔ Word.Reads word t := by
  refine ⟨fun h => h ▸ Word.reads_of word, fun h => ?_⟩
  cases h with
  | help h => rcases h with rfl | rfl <;> decide +kernel
  | strict h => subst h; decide +kernel
  | @setting s h => subst h; cases s <;> decide +kernel
  | unknown flag help strict setting =>
    have long : word ≠ "-h" := by
      rintro rfl
      exact absurd flag (by unfold IsFlag; decide +kernel)
    have none : Setting.ofFlag? word = none :=
      Option.eq_none_iff_forall_ne_some.mpr fun s found => setting s (Setting.ofFlag?_eq_some_iff.mp found)
    simp only [Word.of, none, show word.startsWith "--" = true from flag]
    simp [long, help, strict]
  | input flag help =>
    have apart (known : String) (h : IsFlag known) : word ≠ known := by
      rintro rfl
      exact flag h
    have setting (s : Setting) : IsFlag s.flag := by
      unfold IsFlag
      cases s <;> decide +kernel
    have none : Setting.ofFlag? word = none := Option.eq_none_iff_forall_ne_some.mpr fun s found =>
      apart _ (setting s) (Setting.ofFlag?_eq_some_iff.mp found)
    have help' := apart "--help" (by unfold IsFlag; decide +kernel)
    have strict := apart "--strict" (by unfold IsFlag; decide +kernel)
    simp only [Word.of, none, show word.startsWith "--" = false from Bool.eq_false_iff.mpr flag]
    simp [help, help', strict]

/-- A text names a threshold, whatever blanks stand around it and whatever the case of its letters. -/
def Names (value : String) (t : Log.Threshold) : Prop := Text.sameLetters t.name (Text.trim value) = true

theorem ofName?_eq_some_iff {value : String} {t : Log.Threshold} : Log.Threshold.ofName? value = some t ↔ Names value t := by
  let named (t : Log.Threshold) : Bool := Text.sameLetters t.name (Text.trim value)
  have search : Log.Threshold.ofName? value = Log.Threshold.all.find? named := rfl
  rw [search]
  constructor
  · exact fun found => List.find?_some (p := named) found
  · intro h
    have among : t ∈ Log.Threshold.all := by rcases t with _ | _ | _ | _ | _ | _ <;> decide
    obtain ⟨u, found⟩ := Option.isSome_iff_exists.mp (List.find?_isSome (p := named).mpr ⟨t, among, h⟩)
    have same : Text.lower u.name = Text.lower t.name :=
      (beq_iff_eq.mp (List.find?_some (p := named) found)).trans (beq_iff_eq.mp h).symm
    have apart : ∀ u ∈ Log.Threshold.all, ∀ t ∈ Log.Threshold.all, Text.lower u.name = Text.lower t.name → u = t := by
      decide +kernel
    rwa [apart u (List.mem_of_find?_eq_some found) t among same] at found

/-! ### Parts -/

/-- What stands in a command line. -/
inductive Part where
  | strict
  | setting (s : Setting) (value : String)
  | input (word : String)
  deriving DecidableEq

namespace Part

/-- The words of a part. -/
def words : Part → List String
  | strict => ["--strict"]
  | setting s value => [s.flag, value]
  | input word => [word]

/-- An input does not begin like a flag and does not ask for help. -/
def IsWritten : Part → Prop
  | input word => ¬ IsFlag word ∧ word ≠ "-h"
  | _ => True

/-- The input. -/
def input? : Part → Option String
  | input word => some word
  | _ => none

/-- The value of a setting. -/
def value? (s : Setting) : Part → Option String
  | setting t value => if t = s then some value else none
  | _ => none

end Part

/-- The inputs among some parts. -/
def inputs (parts : List Part) : List String := parts.filterMap Part.input?

/-- The values of a setting among some parts. -/
def values (s : Setting) (parts : List Part) : List String := parts.filterMap (Part.value? s)

/-- A command line begins with some parts and goes on with a rest. -/
structure Splits (line : List String) (parts : List Part) (rest : List String) : Prop where
  words : line = parts.flatMap Part.words ++ rest
  written : ∀ p ∈ parts, p.IsWritten

/-- Parts that may stand in one command line: there is one input at most, and what stands for a threshold names one. -/
structure Fits (parts : List Part) : Prop where
  once : (inputs parts).length ≤ 1
  named : ∀ value ∈ values .threshold parts, ∃ t, Names value t

/-- What is asked for by some parts: the last value of each setting, and the values of all scripts. -/
structure Records (parts : List Part) (a : Arguments) : Prop where
  input : inputs parts = [a.input]
  resource : a.resource = (values .resource parts).getLast?
  url : a.url = (values .url parts).getLast?
  mediaType : a.mediaType = (values .mediaType parts).getLast?.getD "text/html"
  scripts : a.scripts = values .script parts
  strict : a.strict = true ↔ .strict ∈ parts
  threshold : Option.Rel Names (values .threshold parts).getLast? a.threshold

/-- What stands behind some parts is refused at its first words. -/
inductive Offends (parts : List Part) : List String → Error → Prop where
  | unknown {word : String} {rest : List String} (flag : IsFlag word) (help : word ≠ "--help") (strict : word ≠ "--strict")
    (setting : ∀ s : Setting, word ≠ s.flag) : Offends parts (word :: rest) (.unknownFlag word)
  | valueless (s : Setting) : Offends parts [s.flag] (.missingValue s.flag)
  | nameless {value : String} {rest : List String} (none : ∀ t, ¬ Names value t) :
    Offends parts (Setting.threshold.flag :: value :: rest) (.invalidLogLevel value)
  | surplus {word : String} {rest : List String} (written : (Part.input word).IsWritten) (taken : inputs parts ≠ []) :
    Offends parts (word :: rest) (.unexpectedArgument word)

/-! ### What was read -/

/-- What is known of a command line that was read as far as these parts. -/
def Draft.of (parts : List Part) : Draft where
  input := (inputs parts).head?
  resource := (values .resource parts).getLast?
  url := (values .url parts).getLast?
  mediaType := (values .mediaType parts).getLast?
  scripts := values .script parts
  strict := parts.contains .strict
  threshold := (values .threshold parts).getLast?.bind Log.Threshold.ofName?

section Reading

variable {parts more : List Part} {p : Part} {line rest : List String} {a : Arguments} {e : Error}

theorem inputs_append (parts more : List Part) : inputs (parts ++ more) = inputs parts ++ inputs more :=
  List.filterMap_append

theorem values_append (s : Setting) (parts more : List Part) : values s (parts ++ more) = values s parts ++ values s more :=
  List.filterMap_append

theorem inputs_concat (parts : List Part) (p : Part) : inputs (parts ++ [p]) = inputs parts ++ p.input?.toList := by
  rw [inputs_append, inputs, inputs, List.filterMap_cons]
  cases p.input? <;> rfl

theorem values_concat (s : Setting) (parts : List Part) (p : Part) :
    values s (parts ++ [p]) = values s parts ++ (p.value? s).toList := by
  rw [values_append, values, values, List.filterMap_cons]
  cases p.value? s <;> rfl

theorem Fits.of_append (h : Fits (parts ++ more)) : Fits parts where
  once := by
    have once := h.once
    rw [inputs_append, List.length_append] at once
    omega
  named value hv := h.named value (values_append .threshold parts more ▸ List.mem_append_left _ hv)

/-- A part that is read is known from then on. -/
theorem read_part (written : p.IsWritten) (fits : Fits (parts ++ [p])) :
    (Draft.of parts).read (p.words ++ rest) = (Draft.of (parts ++ [p])).read rest := by
  cases p with
  | strict =>
    rw [Part.words, List.singleton_append, Draft.read, Word.of_eq_iff.mpr (.strict rfl)]
    simp [Draft.of, inputs_concat, values_concat, Part.input?, Part.value?]
  | input word =>
    have none : inputs parts = [] := by
      have once := fits.once
      rw [inputs_concat, List.length_append, show (Part.input word).input?.toList.length = 1 from rfl] at once
      exact List.length_eq_zero_iff.mp (by omega)
    rw [Part.words, List.singleton_append, Draft.read, Word.of_eq_iff.mpr (.input written.1 written.2)]
    simp [Draft.of, Draft.take, inputs_concat, values_concat, Part.input?, Part.value?, none]
  | setting s value =>
    rw [Part.words, List.cons_append, List.singleton_append, Draft.read, Word.of_eq_iff.mpr (.setting rfl)]
    cases s with
    | threshold =>
      have last : value ∈ values .threshold (parts ++ [.setting .threshold value]) := by
        simp [values_concat, Part.value?]
      obtain ⟨t, named⟩ := fits.named value last
      have found := ofName?_eq_some_iff.mpr named
      have read : readThreshold value = .ok t := by rw [readThreshold, found]
      simp [Draft.of, Draft.set, inputs_concat, values_concat, Part.input?, Part.value?, read, Except.map, found]
    | _ => simp [Draft.of, Draft.set, inputs_concat, values_concat, Part.input?, Part.value?]

/-- A command line is read part by part. -/
theorem read_parts (h : Splits line parts rest) (fits : Fits parts) : Request.ofArguments line = (Draft.of parts).read rest := by
  obtain ⟨rfl, written⟩ := h
  induction parts using List.reverseRecOn generalizing rest with
  | nil => rfl
  | append_singleton parts p ih =>
    rw [List.flatMap_append, List.flatMap_singleton, List.append_assoc,
      ih fits.of_append fun q hq => written q (List.mem_append_left _ hq)]
    exact read_part (written p (by simp)) fits

theorem rel_names_iff (fits : Fits parts) {t : Option Log.Threshold} :
    Option.Rel Names (values .threshold parts).getLast? t ↔
      (values .threshold parts).getLast?.bind Log.Threshold.ofName? = t := by
  cases last : (values .threshold parts).getLast? with
  | none =>
    constructor
    · rintro ⟨⟩
      rfl
    · rintro rfl
      exact .none
  | some value =>
    rw [Option.bind_some]
    constructor
    · rintro ⟨named⟩
      exact ofName?_eq_some_iff.mpr named
    · rintro rfl
      obtain ⟨t, named⟩ := fits.named value (List.mem_of_getLast? last)
      rw [ofName?_eq_some_iff.mpr named]
      exact .some named

/-- Where all is read, the request has what the parts ask for. -/
theorem finish_eq_ok_iff (fits : Fits parts) : (Draft.of parts).finish = .ok (.run a) ↔ Records parts a := by
  constructor
  · intro h
    unfold Draft.finish at h
    split at h
    · cases h
    next input taken =>
      cases h
      have one : inputs parts = [input] := by
        obtain ⟨more, eq⟩ := List.head?_eq_some_iff.mp taken
        have once := fits.once
        rw [eq, List.length_cons] at once
        rw [eq, List.length_eq_zero_iff.mp (by omega : more.length = 0)]
      exact ⟨one, rfl, rfl, rfl, rfl, List.contains_iff_mem, (rel_names_iff fits).mpr rfl⟩
  · rintro ⟨input, resource, url, mediaType, scripts, strict, threshold⟩
    have flag : parts.contains .strict = a.strict := by rw [Bool.eq_iff_iff, List.contains_iff_mem, strict]
    simp only [Draft.finish, Draft.of, input, List.head?_cons, ← resource, ← url, ← mediaType, ← scripts, flag,
      (rel_names_iff fits).mp threshold]

/-- Parts that fit, with an input among them, ask for something. -/
theorem Fits.exists_records (fits : Fits parts) (taken : inputs parts ≠ []) : ∃ a, Records parts a := by
  obtain ⟨input, more, eq⟩ := List.exists_cons_of_ne_nil taken
  obtain ⟨a, finish⟩ : ∃ a, (Draft.of parts).finish = .ok (.run a) := by
    simp only [Draft.finish, Draft.of, eq, List.head?_cons]
    exact ⟨_, rfl⟩
  exact ⟨a, (finish_eq_ok_iff fits).mp finish⟩

/-- What stands behind some parts ends the reading. -/
inductive Ending (parts : List Part) : List String → Except Error Request → Prop where
  | missing (none : inputs parts = []) : Ending parts [] (.error .missingInput)
  | run {a : Arguments} (records : Records parts a) : Ending parts [] (.ok (.run a))
  | help {word : String} {rest : List String} (h : word = "-h" ∨ word = "--help") : Ending parts (word :: rest) (.ok .help)
  | refused {rest : List String} {e : Error} (h : Offends parts rest e) : Ending parts rest (.error e)

theorem Ending.read {r : Except Error Request} (fits : Fits parts) (h : Ending parts rest r) :
    (Draft.of parts).read rest = r := by
  cases h with
  | missing none => simp [Draft.read, Draft.finish, Draft.of, none]
  | run records => exact (finish_eq_ok_iff fits).mpr records
  | help h => rw [Draft.read, Word.of_eq_iff.mpr (.help h)]
  | refused h =>
    cases h with
    | unknown flag help strict setting => rw [Draft.read, Word.of_eq_iff.mpr (.unknown flag help strict setting)]
    | valueless s => rw [Draft.read, Word.of_eq_iff.mpr (.setting rfl)]
    | @nameless value rest none =>
      have unread : readThreshold value = .error (.invalidLogLevel value) := by
        have unknown : Log.Threshold.ofName? value = .none :=
          Option.eq_none_iff_forall_ne_some.mpr fun t found => none t (ofName?_eq_some_iff.mp found)
        rw [readThreshold, unknown]
      rw [Draft.read, Word.of_eq_iff.mpr (.setting rfl)]
      simp only [Draft.set, unread]
      rfl
    | surplus written taken =>
      obtain ⟨first, more, eq⟩ := List.exists_cons_of_ne_nil taken
      rw [Draft.read, Word.of_eq_iff.mpr (.input written.1 written.2)]
      simp [Draft.take, Draft.of, eq]

/-- Behind some parts a command line goes on with parts, up to an end of the reading. -/
def Ends (parts : List Part) (line : List String) : Prop :=
  ∃ more rest r, Splits line more rest ∧ Fits (parts ++ more) ∧ Ending (parts ++ more) rest r

theorem Ends.of_ending {r : Except Error Request} (fits : Fits parts) (h : Ending parts line r) : Ends parts line :=
  ⟨[], line, r, ⟨rfl, nofun⟩, (List.append_nil parts).symm ▸ fits, (List.append_nil parts).symm ▸ h⟩

theorem Ends.behind (written : p.IsWritten) (h : Ends (parts ++ [p]) line) : Ends parts (p.words ++ line) := by
  obtain ⟨more, rest, r, ⟨rfl, all⟩, fits, ending⟩ := h
  rw [List.append_assoc, List.singleton_append] at fits ending
  refine ⟨p :: more, rest, r, ⟨?_, List.forall_mem_cons.mpr ⟨written, all⟩⟩, fits, ending⟩
  rw [List.flatMap_cons, List.append_assoc]

theorem Fits.concat (fits : Fits parts) (once : p.input? ≠ none → inputs parts = [])
    (named : ∀ value, p.value? .threshold = some value → ∃ t, Names value t) : Fits (parts ++ [p]) where
  once := by
    rw [inputs_concat]
    cases input : p.input? with
    | none => simpa using fits.once
    | some word => simp [once (by simp [input])]
  named value hv := by
    rw [values_concat, List.mem_append, Option.mem_toList] at hv
    exact hv.elim (fits.named value) (named value)

theorem Ends.of_fits (fits : Fits parts) : Ends parts [] := by
  by_cases taken : inputs parts = []
  · exact .of_ending fits (.missing taken)
  · obtain ⟨a, records⟩ := fits.exists_records taken
    exact .of_ending fits (.run records)

/-- Every command line goes on with parts, up to an end of the reading. -/
theorem exists_ending {parts : List Part} (fits : Fits parts) (line : List String) : Ends parts line := by
  -- The induction follows the reading: a part takes one word or two.
  match line with
  | [] => exact .of_fits fits
  | word :: line =>
    have reads := Word.reads_of word
    generalize Word.of word = kind at reads
    cases reads with
    | help h => exact .of_ending fits (.help h)
    | strict h =>
      subst h
      have fits' : Fits (parts ++ [.strict]) := fits.concat (absurd rfl) fun _ none => nomatch none
      exact .behind (p := .strict) trivial (exists_ending fits' line)
    | unknown flag help strict setting => exact .of_ending fits (.refused (.unknown flag help strict setting))
    | input flag help =>
      by_cases taken : inputs parts = []
      · have fits' : Fits (parts ++ [.input word]) := fits.concat (fun _ => taken) fun _ none => nomatch none
        exact .behind (p := .input word) ⟨flag, help⟩ (exists_ending fits' line)
      · exact .of_ending fits (.refused (.surplus ⟨flag, help⟩ taken))
    | @setting s h =>
      subst h
      match line with
      | [] => exact .of_ending fits (.refused (.valueless s))
      | value :: line =>
        by_cases nameless : s = .threshold ∧ ∀ t, ¬ Names value t
        · obtain ⟨rfl, none⟩ := nameless
          exact .of_ending fits (.refused (.nameless none))
        · have fits' : Fits (parts ++ [.setting s value]) := by
            refine fits.concat (absurd rfl) fun v hv => ?_
            simp only [Part.value?, Option.ite_none_right_eq_some, Option.some.injEq] at hv
            obtain ⟨same, rfl⟩ := hv
            by_contra none
            exact nameless ⟨same, not_exists.mp none⟩
          exact .behind (p := .setting s value) trivial (exists_ending fits' line)
termination_by line.length

/-- A command line is read as its parts and its end say. -/
theorem ofArguments_eq_iff {r : Except Error Request} : Request.ofArguments line = r ↔
    ∃ parts rest, Splits line parts rest ∧ Fits parts ∧ Ending parts rest r := by
  constructor
  · rintro rfl
    have none : Fits ([] : List Part) := ⟨Nat.zero_le _, nofun⟩
    obtain ⟨parts, rest, r, splits, fits, ending⟩ := exists_ending none line
    rw [List.nil_append] at fits ending
    have read : Request.ofArguments line = r := (read_parts splits fits).trans (ending.read fits)
    exact ⟨parts, rest, splits, fits, read ▸ ending⟩
  · rintro ⟨parts, rest, splits, fits, ending⟩
    rw [read_parts splits fits, ending.read fits]

/-- A command line asks to run as its parts say. -/
theorem ofArguments_eq_run_iff : Request.ofArguments line = .ok (.run a) ↔
    ∃ parts, Splits line parts [] ∧ Fits parts ∧ Records parts a := by
  rw [ofArguments_eq_iff]
  constructor
  · rintro ⟨parts, rest, splits, fits, ⟨⟩⟩
    exact ⟨parts, splits, fits, ‹_›⟩
  · rintro ⟨parts, splits, fits, records⟩
    exact ⟨parts, [], splits, fits, .run records⟩

/-- A command line asks for help where help stands behind its parts. -/
theorem ofArguments_eq_help_iff : Request.ofArguments line = .ok .help ↔
    ∃ parts word rest, Splits line parts (word :: rest) ∧ Fits parts ∧ (word = "-h" ∨ word = "--help") := by
  rw [ofArguments_eq_iff]
  constructor
  · rintro ⟨parts, rest, splits, fits, ⟨⟩⟩
    exact ⟨parts, _, _, splits, fits, ‹_›⟩
  · rintro ⟨parts, word, rest, splits, fits, h⟩
    exact ⟨parts, word :: rest, splits, fits, .help h⟩

/-- A command line is refused where it has no input, or for what stands behind its parts. -/
theorem ofArguments_eq_error_iff : Request.ofArguments line = .error e ↔
    (e = .missingInput ∧ ∃ parts, Splits line parts [] ∧ Fits parts ∧ inputs parts = []) ∨
      ∃ parts rest, Splits line parts rest ∧ Fits parts ∧ Offends parts rest e := by
  rw [ofArguments_eq_iff]
  constructor
  · rintro ⟨parts, rest, splits, fits, ending⟩
    cases ending with
    | missing none => exact .inl ⟨rfl, parts, splits, fits, none⟩
    | refused h => exact .inr ⟨parts, rest, splits, fits, h⟩
  · rintro (⟨rfl, parts, splits, fits, none⟩ | ⟨parts, rest, splits, fits, h⟩)
    · exact ⟨parts, [], splits, fits, .missing none⟩
    · exact ⟨parts, rest, splits, fits, .refused h⟩

end Reading

/-- A command line asks to run exactly if it is made of parts that fit, one of them an input, and then asks for what they say.
It asks for help exactly if help stands behind parts that fit. All else is refused: for its input if it is made of parts that
fit and has none, and otherwise for the first words with which it goes on behind such parts and may not. -/
theorem ofArguments_grammar (line : List String) :
    ((∃ a, Request.ofArguments line = .ok (.run a)) ↔
      ∃ parts, Splits line parts [] ∧ Fits parts ∧ (inputs parts).length = 1) ∧
    (∀ a, Request.ofArguments line = .ok (.run a) ↔ ∃ parts, Splits line parts [] ∧ Fits parts ∧ Records parts a) ∧
    (Request.ofArguments line = .ok .help ↔
      ∃ parts word rest, Splits line parts (word :: rest) ∧ Fits parts ∧ (word = "-h" ∨ word = "--help")) ∧
    (∀ e, Request.ofArguments line = .error e ↔
      (e = .missingInput ∧ ∃ parts, Splits line parts [] ∧ Fits parts ∧ inputs parts = []) ∨
        ∃ parts rest, Splits line parts rest ∧ Fits parts ∧ Offends parts rest e) ∧
    ((∃ e, Request.ofArguments line = .error e ∧ e.code = "cli.missing_input") ↔
      ∃ parts, Splits line parts [] ∧ Fits parts ∧ inputs parts = []) := by
  refine ⟨?input, fun a => ofArguments_eq_run_iff, ofArguments_eq_help_iff, fun e => ofArguments_eq_error_iff, ?missing⟩
  case input =>
    constructor
    · rintro ⟨a, run⟩
      obtain ⟨parts, splits, fits, records⟩ := ofArguments_eq_run_iff.mp run
      exact ⟨parts, splits, fits, by rw [records.input, List.length_singleton]⟩
    · rintro ⟨parts, splits, fits, one⟩
      obtain ⟨a, records⟩ := fits.exists_records (List.ne_nil_of_length_pos (by omega))
      exact ⟨a, ofArguments_eq_run_iff.mpr ⟨parts, splits, fits, records⟩⟩
  case missing =>
    constructor
    · rintro ⟨e, refused, named⟩
      rcases ofArguments_eq_error_iff.mp refused with ⟨-, missing⟩ | ⟨parts, rest, -, -, offends⟩
      · exact missing
      · cases offends <;> simp [Error.code] at named
    · exact fun missing => ⟨.missingInput, ofArguments_eq_error_iff.mpr (.inl ⟨rfl, missing⟩), rfl⟩

end Pagewalk.Command
