import Pagewalk.Text.Blank

/-!
# Resources

What was fetched is sorted by its media type. The essence of a media type is what stands before the first
semicolon, without blanks around it and in small letters.
-/

namespace Pagewalk

/-- The sort of a resource. -/
inductive ResourceType where
  | html
  | css
  | script
  | image
  | json
  | xml
  | txt
  | unknown
  deriving DecidableEq, Repr

namespace ResourceType

/-- Every sort. -/
def all : List ResourceType := [html, css, script, image, json, xml, txt, unknown]

/-- The name of a sort. -/
def name : ResourceType → String
  | html => "html"
  | css => "css"
  | script => "script"
  | image => "image"
  | json => "json"
  | xml => "xml"
  | txt => "txt"
  | unknown => "unknown"

/-- The sort with a name. -/
def ofName? (s : String) : Option ResourceType := all.find? fun t => t.name == s

/-- The essence of a media type. -/
def essence (mediaType : String) : String :=
  Text.lower (Text.trim (String.ofList (mediaType.toList.takeWhile (· != ';'))))

/-- The essences that name a sort outright. -/
def essences : List (String × ResourceType) :=
  [("text/html", html), ("application/xhtml+xml", html), ("text/css", css), ("text/javascript", script),
    ("application/javascript", script), ("application/x-javascript", script), ("text/ecmascript", script),
    ("application/ecmascript", script), ("module", script), ("application/json", json), ("text/json", json),
    ("text/xml", xml), ("application/xml", xml), ("text/plain", txt)]

/-- The sort of a media type: by its whole essence, else by how the essence begins, else by how it ends. -/
def ofMediaType (mediaType : String) : ResourceType :=
  let e := essence mediaType
  match essences.lookup e with
  | some t => t
  | none =>
    if e.startsWith "image/" then image
    else if e.endsWith "+json" then json
    else if e.endsWith "+xml" then xml
    else unknown

theorem ofName?_name (t : ResourceType) : ofName? t.name = some t := by cases t <;> decide

end ResourceType

end Pagewalk
