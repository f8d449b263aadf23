import Pagewalk.Text.Blank

/-!
# Tags in a source

A tag is read from its `<` to the `>` that ends it. A quote hides a `>` only where it opens a value, that is after
an equals sign and blanks. A tag that the source does not complete is no tag.
-/

namespace Pagewalk.Source

open Text

/-- A tag as it stands in a source. -/
structure TagText where
  /-- The name in small letters. -/
  name : String
  isEnd : Bool
  selfClosing : Bool
  deriving DecidableEq, Repr

/-- Where in a tag a character stands, after the name. -/
inductive TagPlace where
  | plain
  /-- After an equals sign and blanks. -/
  | value
  | quoted (quote : Char)
  deriving DecidableEq, Repr

/-- Reads to the end of a tag: whether a slash stands right before the `>`, and the number of characters, counted
on from `n`. -/
def tagEnd? : TagPlace → Bool → Nat → List Char → Option (Bool × Nat)
  | _, _, _, [] => none
  | .quoted q, _, n, c :: cs => tagEnd? (if c == q then .plain else .quoted q) false (n + 1) cs
  | place, slash, n, c :: cs =>
    if c == '>' then some (slash, n + 1)
    else if (c == '"' || c == '\'') && place == .value then tagEnd? (.quoted c) false (n + 1) cs
    else if c == '=' then tagEnd? .value false (n + 1) cs
    else if isSpace c then tagEnd? place false (n + 1) cs
    else tagEnd? .plain (c == '/') (n + 1) cs

/-- A character of a tag name after its first letter. -/
def isNameChar (c : Char) : Bool := !(isSpace c || c == '/' || c == '>')

/-- The tag after `<` and a possible slash, with the number of its characters. -/
def tagFrom? (isEnd : Bool) (before : Nat) (cs : List Char) : Option (TagText × Nat) :=
  match cs with
  | [] => none
  | c :: _ =>
    if c.isAlpha then
      let (name, rest) := cs.span isNameChar
      (tagEnd? .plain false (before + name.length) rest).map fun (slash, n) =>
        (⟨lower (String.ofList name), isEnd, slash⟩, n)
    else none

/-- The tag at the start of a text, with the number of its characters. -/
def tag? : List Char → Option (TagText × Nat)
  | '<' :: '/' :: cs => tagFrom? true 2 cs
  | '<' :: cs => tagFrom? false 1 cs
  | _ => none

end Pagewalk.Source
