import Pagewalk.Markup.Builder

/-!
# End tags of formatting elements

The end tag of a formatting element may stand inside other elements. `adopt` closes the element where it stands:
the blocks that are open inside it adopt copies of it, so that what follows is formatted no more. Any other end
tag closes the nearest element of its name, unless a special element stands between.
-/

namespace Pagewalk.Markup.Build

/-- Closes the nearest element of this name and all that is open in it. -/
def closeNamed (name : String) : Build Unit := do
  let b ← get
  let inner := b.stack.takeWhile fun id => !(b.draft.name id).isHtml name
  if inner.any fun id => isSpecial (b.draft.name id) then fault .specialWhileClosing
  else if inner.length == b.stack.length then fault .unexpectedToken
  else
    let outer := b.stack.drop (inner.length + 1)
    closeImpliedBut name
    if (← get).stack.length != outer.length + 1 then fault .unexpectedToken
    modify fun b => { b with stack := outer }

/-- What the copying of the elements between the closed one and its furthest block leaves. -/
structure Copies where
  /-- The open elements between, innermost first, as they are now. -/
  between : List NodeId
  /-- The node that was moved last. -/
  last : NodeId
  /-- The first copy, after which the entry of the closed element goes. -/
  bookmark : Option NodeId

/-- Copies the formatting elements between the closed element and its furthest block, innermost first; each copy
takes the node before it as its child. From the fourth element on none is copied. -/
def copyBetween (block : NodeId) : Nat → List NodeId → Copies → Build Copies
  | _, [], c => return c
  | count, id :: rest, c => do
    let entry := (← get).formatting.find? (Formatting.isFor id)
    match entry with
    | some (.element _ tag) =>
      if count ≥ 3 then
        forget id
        copyBetween block (count + 1) rest c
      else
        let copy ← make fun d => d.makeElement (.html tag.name) tag.attributes
        modify fun b =>
          { b with formatting := b.formatting.map fun e => if e.isFor id then .element copy tag else e }
        redraft fun d => (d.detach c.last).append copy c.last
        -- Just before the first copy it is the block itself that was moved last.
        let bookmark := if c.last == block then some copy else c.bookmark
        copyBetween block (count + 1) rest ⟨c.between ++ [copy], copy, bookmark⟩
    -- An element that has no entry formats nothing, and is open no more.
    | _ => copyBetween block (count + 1) rest c

/-- Puts the entry of a copy where the entry of the closed element stood, or right after the first copy made. -/
def placeEntry (closed : NodeId) (bookmark : Option NodeId) (entry : Formatting) : List Formatting → List Formatting :=
  match bookmark with
  | none => fun entries => entries.map fun e => if e.isFor closed then entry else e
  | some first => fun entries =>
    (entries.flatMap fun e => if e.isFor first then [entry, e] else [e]).eraseP (Formatting.isFor closed)

/-- One round of adoption; it answers whether another may follow. -/
def adoptOnce (name : String) : Build Bool := do
  let b ← get
  match (sinceMarker b.formatting).find? fun (_, tag) => tag.name == name with
  | none =>
    closeNamed name
    return false
  | some (element, tag) =>
    if !b.stack.contains element then
      fault .formattingNotOpen
      forget element
      return false
    else if !scopeHas b.draft defaultScope (· == element) b.stack then
      fault .formattingOutOfScope
      return false
    else
      if b.stack.head? != some element then fault .formattingNotCurrent
      let inner := b.stack.takeWhile (· != element)
      let outer := b.stack.drop (inner.length + 1)
      -- The furthest block is the special element nearest to the closed one.
      let special := inner.filter fun id => isSpecial (b.draft.name id)
      match special.getLast? with
      | none =>
        modify fun b => { b with stack := outer }
        forget element
        return false
      | some block =>
        let innermost := inner.takeWhile (· != block)
        let between := inner.drop (innermost.length + 1)
        let ancestor := outer.head?.getD Draft.document
        let c ← copyBetween block 0 between ⟨[], block, none⟩
        redraft fun d => d.detach c.last
        insertAt (← place (some ancestor)) c.last
        -- What the block holds is formatted by a copy inside it, so the block itself need not be.
        let copy ← make fun d => d.makeElement (.html tag.name) tag.attributes
        redraft fun d => (d.moveChildren block copy).append block copy
        modify fun b =>
          { b with
            formatting := placeEntry element c.bookmark (.element copy tag) b.formatting
            stack := innermost ++ copy :: block :: c.between ++ outer }
        return true

/-- Rounds of adoption, as many as allowed. -/
def adoptRounds (name : String) : Nat → Build Unit
  | 0 => return
  | n + 1 => do
    if ← adoptOnce name then adoptRounds name n

/-- The end tag of a formatting element. -/
def adopt (name : String) : Build Unit := do
  let b ← get
  let id ← current
  if (b.draft.name id).isHtml name && !b.formatting.any (Formatting.isFor id) then pop
  else adoptRounds name 8

end Pagewalk.Markup.Build
