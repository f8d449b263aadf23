import Pagewalk.Page
import Pagewalk.Walk

/-!
# The cycle of a page

When a page of markup was fetched it is read, opened in a window and walked through. The start of the reading is
told before anything is done; its end is told with the window. Where the page cannot be decoded or read the cycle
ends with that error, and what is no markup is left alone.
-/

namespace Pagewalk

/-- How fetched pages are read, and under which limits their scripts run. -/
structure CycleConfig where
  page : PageConfig := {}
  script : ScriptConfig := {}
  deriving DecidableEq, Repr, Inhabited

/-- The configuration, if its limits are allowed. -/
def CycleConfig.checked (c : CycleConfig) : Except Error CycleConfig := do
  let page ← c.page.checked
  let script ← c.script.checked
  return ⟨page, script⟩

namespace Cycle

variable {σ : Type}

/-- The text of what was fetched: the text that came with it, or else its bytes decoded. -/
def source (config : PageConfig) (f : Fetch) : Logged String :=
  match f.raw with
  | none => ([], .ok f.content)
  | some raw =>
    if f.content != "" then ([], .ok f.content)
    else if raw.length > config.maxBytes then ([], .error (.documentTooLarge raw.length config.maxBytes))
    else Charset.decodeBody raw f.mediaType f.charset config.strict

/-- The record about a fetch that is left alone. -/
def ignoredRecord (f : Fetch) : Log.Record :=
  ⟨.debug, .cycle, "ignoring " ++ f.type.name ++ " fetch of " ++ f.resource⟩

/-- The record about a fetch that could not be decoded or read. -/
def failedRecord (what resource : String) (e : Error) : Log.Record :=
  ⟨.warn, .cycle, "cannot " ++ what ++ " " ++ resource ++ ": " ++ e.display⟩

/-- The record about a page whose address is none. -/
def unlocatedRecord (f : Fetch) (fault : Url.Fault) : Log.Record :=
  ⟨.debug, .cycle, "window for " ++ f.resource ++ " has no location (" ++ f.url ++ ": " ++ fault.text ++ ")"⟩

/-- Goes on with a result, or writes down what failed and ends with the error. -/
def attempt {α : Type} (what resource : String) : Logged α → (α → Routine σ) → Routine σ
  | (records, .ok a), next => .note records fun _ => next a
  | (records, .error e), _ => .note (records ++ [failedRecord what resource e]) fun _ => .fail e

/-- The address of a fetch, with the record that it is none. -/
def location (f : Fetch) : List Log.Record × Option Url :=
  match Url.parse f.url with
  | .ok u => ([], some u)
  | .error fault => ([unlocatedRecord f fault], none)

/-- Reads a page of markup, opens it and walks through it. -/
def read (config : CycleConfig) (f : Fetch) : Routine σ :=
  .announce (.parseStart f.resource) fun _ =>
    attempt "decode" f.resource (source config.page f) fun html =>
      attempt "parse" f.resource (Document.parse config.page html) fun d =>
        let (records, url) := location f
        .note records fun _ =>
          .openWindow d url config.script fun page =>
            .announce (.parseEnd f.resource html page) fun _ => page.document.walk f.resource

/-- Does what a fetch asks for. -/
def handle (config : CycleConfig) (f : Fetch) : Routine σ :=
  if f.type = .html then read config f else .note [ignoredRecord f] fun _ => .ok

/-- The events that a listener for pages hears. -/
def filter : EventFilter := .fetch .html

/-- What a listener for pages does. -/
def listener (config : CycleConfig) : Handler σ
  | .fetchEnd f => handle config f
  | _ => .ok

/-- Adds a listener that reads every page that is fetched. -/
def attach (config : CycleConfig) (next : Except Error ListenerId → Routine σ) : Routine σ :=
  match config.checked with
  | .ok c => .subscribe filter (listener c) next
  | .error e => next (.error e)

end Cycle

end Pagewalk
