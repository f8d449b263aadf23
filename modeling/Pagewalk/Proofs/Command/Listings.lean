import Pagewalk.Command.Listing
import Pagewalk.Proofs.Cycle
import Pagewalk.Proofs.Document.Trails
import Pagewalk.Selector.Matching

/-!
# Listings of a walk

The depth of a listing is the number of elements that the walk is in: it goes up by one with each step down, and a
step up never finds it at zero. So every line about an element is indented by two blanks for each element above it,
and behind the walk the depth is zero again. Those indents are all that is needed to find the tree of the elements in
the lines: an element is below the last one before it that is less indented.
-/

namespace Pagewalk

namespace Element

theorem above_of_mem_ofKids {above : Trail} {place : Nat} {kids : List Node} {e : Element}
    (h : e ∈ ofKids above place kids) : e.above = above := by
  obtain ⟨⟨n, i⟩, -, he⟩ := List.mem_filterMap.mp h
  exact (List.cons.inj (trail_of_ofTrail? he)).2

/-- Above a child there is its parent, and what is above that. -/
theorem ancestors_of_mem_children {e c : Element} (h : c ∈ e.children) : c.ancestors = e :: e.ancestors := by
  rw [ancestors, above_of_mem_ofKids h]
  rfl

end Element

namespace Command.Listing
open Walk

/-- The listing with the lines of more events. -/
def after (l : Listing) (es : List Event) : Listing := es.foldl add l

/-- The number of elements above the one that an event tells of. -/
def level (e : Event) : Nat := (e.target?.map fun p => p.element.ancestors.length).getD 0

/-- The line of an event, indented by two blanks for each element above. -/
def shown (e : Event) : String := indent (level e) ++ entry e

/-! ### The depth -/

/-- Events that lead a listing from one depth to another: each stands at the depth of its element, and at a step up
the depth is not zero. -/
inductive Leads : Nat → List Event → Nat → Prop where
  | nil (depth : Nat) : Leads depth [] depth
  | cons {depth last : Nat} {e : Event} {es : List Event} (stands : depthAt depth e = level e)
      (inside : e.kind = .traverseUp → 0 < depth) (rest : Leads (depthAfter depth e) es last) :
      Leads depth (e :: es) last

namespace Leads
variable {depth middle last : Nat} {es fs : List Event} {e : Event}

theorem append (h : Leads depth es middle) (h' : Leads middle fs last) : Leads depth (es ++ fs) last := by
  induction h with
  | nil => exact h'
  | cons stands inside _ ih => exact .cons stands inside (ih h')

theorem of_append (h : Leads depth (es ++ fs) last) : ∃ middle, Leads depth es middle ∧ Leads middle fs last := by
  induction es generalizing depth with
  | nil => exact ⟨depth, .nil depth, h⟩
  | cons e es ih =>
    cases h with
    | cons stands inside rest =>
      obtain ⟨middle, front, back⟩ := ih rest
      exact ⟨middle, .cons stands inside front, back⟩

theorem flatMap {cs : List Element} {word : Element → List Event} (h : ∀ c ∈ cs, Leads depth (word c) depth) :
    Leads depth (cs.flatMap word) depth := by
  induction cs with
  | nil => exact .nil depth
  | cons c cs ih =>
    rw [List.flatMap_cons]
    exact (h c (List.mem_cons_self ..)).append (ih fun x hx => h x (List.mem_cons_of_mem _ hx))

/-- An event that is no step leaves the depth as it is. -/
theorem stay (still : isTurn e = false) (stands : depth = level e) (rest : Leads depth es last) :
    Leads depth (e :: es) last := by
  cases e with
  | traverseDown => cases still
  | traverseUp => cases still
  | _ => exact .cons stands nofun rest

/-- Such events are listed with their levels. -/
theorem after_eq {l : Listing} (h : Leads depth es last) (hl : l.depth = depth) :
    l.after es = ⟨last, l.lines ++ (es.map shown).toArray⟩ := by
  induction h generalizing l with
  | nil => simp [after, ← hl]
  | @cons depth last e es stands inside rest ih =>
    subst hl
    have listed : l.add e = ⟨depthAfter l.depth e, l.lines.push (shown e)⟩ := by rw [add, stands, shown]
    rw [after, List.foldl_cons, listed, ← after, ih rfl]
    simp

/-- Before a step up the walk is in the element that it leaves; before any other event it is in those above. -/
theorem depth_eq {l : Listing} (h : Leads depth (es ++ e :: fs) last) (hl : l.depth = depth) :
    (l.after es).depth = if e.kind = .traverseUp then level e + 1 else level e := by
  obtain ⟨middle, front, back⟩ := h.of_append
  rw [front.after_eq hl]
  cases back with
  | cons stands inside _ =>
    split
    next up =>
      have pos := inside up
      rw [depthAt, if_pos up] at stands
      change middle = _
      omega
    next notUp =>
      rw [depthAt, if_neg notUp] at stands
      exact stands

end Leads

section Walked
variable (d : Document) (resource : String)

/-- A walk through an element leads back to the depth at which it began. -/
theorem leads_visit (e : Element) : Leads e.ancestors.length (visit d resource e) e.ancestors.length := by
  induction e using Element.children_induction with
  | step e ih =>
    have inner : Leads (e.ancestors.length + 1) (e.children.flatMap (visit d resource)) (e.ancestors.length + 1) := by
      refine .flatMap fun c hc => ?_
      have below := ih c hc
      rwa [Element.ancestors_of_mem_children hc] at below
    have up : Leads (e.ancestors.length + 1) [leaving d resource e] e.ancestors.length :=
      .cons rfl (fun _ => Nat.succ_pos _) (.nil _)
    rw [visit_eq, entering, List.append_assoc]
    exact .stay rfl rfl (.cons rfl (fun no => by cases no) (inner.append up))

theorem leads_events : Leads 0 (events d resource) 0 :=
  .stay rfl rfl ((leads_visit d resource d.root).append (.stay rfl rfl (.nil 0)))

end Walked

/-- A whole cycle begins and ends at the depth zero. -/
theorem leads_cycle (f : Fetch) (html : String) (page : OpenPage) :
    Leads 0 (.fetchEnd f :: Cycle.sequence f html page) 0 :=
  .stay rfl rfl (.stay rfl rfl (.stay rfl rfl (leads_events page.document f.resource)))

/-! ### Reading a tree back -/

/-- Elements one below another, each with what is said of it. -/
inductive Outline where
  | node (text : String) (inner : List Outline)

/-- What the line of an element says. -/
def caption (p : PageElement) : String := entry (.element "" p)

/-- The elements that a walk meets from an element on, with what their lines say. -/
def outline (d : Document) (e : Element) : Outline :=
  .node (caption ⟨d, e⟩) (e.children.attach.map fun c => outline d c.1)
termination_by e.size
decreasing_by exact Element.size_lt_of_mem_children c.2

theorem outline_eq (d : Document) (e : Element) :
    outline d e = .node (caption ⟨d, e⟩) (e.children.map (outline d)) := by
  rw [outline, List.map_attach_eq_pmap, List.pmap_eq_map]

/-- A text begins as what is said of an element does. -/
def isOfElement (text : List Char) : Bool := "element::".toList.isPrefixOf text

/-- The depth and the text of a line, if it is about an element. -/
def row? (line : String) : Option (Nat × String) :=
  let text := line.toList.dropWhile (· == ' ')
  if isOfElement text then some ((line.toList.takeWhile (· == ' ')).length / 2, String.ofList text) else none

/-- Puts a row before the trees that come after it: those that stand deeper are below it. -/
def graft (row : Nat × String) (trees : List (Nat × Outline)) : List (Nat × Outline) :=
  (row.1, .node row.2 ((trees.takeWhile fun t => row.1 < t.1).map Prod.snd)) :: trees.dropWhile fun t => row.1 < t.1

/-- The tree that lines tell of, from the indents of the lines about elements. -/
def readOutline (lines : List String) : Option Outline :=
  (((lines.filterMap row?).foldr graft []).head?).map Prod.snd

/-- The row of an event that tells of an element. -/
def rowOf (e : Event) : Option (Nat × String) := if e.kind = .element then some (level e, entry e) else none

theorem row?_of_not_blank {c : Char} {cs : List Char} (h : c ≠ ' ') (depth : Nat) :
    row? (indent depth ++ String.ofList (c :: cs)) =
      if isOfElement (c :: cs) then some (depth, String.ofList (c :: cs)) else none := by
  have blanks : ∀ x ∈ List.replicate (2 * depth) ' ', (x == ' ') = true := fun x hx =>
    beq_iff_eq.mpr (List.eq_of_mem_replicate hx)
  have here : (c == ' ') = false := beq_false_of_ne h
  have line : (indent depth ++ String.ofList (c :: cs)).toList = List.replicate (2 * depth) ' ' ++ c :: cs := by
    rw [indent, String.toList_append, String.toList_ofList, String.toList_ofList]
  rw [row?, line, List.takeWhile_append_of_pos blanks, List.dropWhile_append_of_pos blanks,
    List.takeWhile_cons_of_neg (by simp [here]), List.dropWhile_cons_of_neg (by simp [here])]
  simp

theorem isOfElement_append (cs : List Char) : isOfElement ("element::".toList ++ cs) = true :=
  List.isPrefixOf_iff_prefix.mpr (List.prefix_append ..)

theorem isOfElement_cons_of_ne {c : Char} (h : c ≠ 'e') (cs : List Char) : isOfElement (c :: cs) = false := by
  have front : "element::".toList = 'e' :: "lement::".toList := by decide
  rw [isOfElement, front, List.isPrefixOf_cons_cons, beq_false_of_ne h.symm, Bool.false_and]

/-- The names of kinds other than of elements begin with another letter. -/
theorem exists_toList_name (k : EventKind) :
    ∃ c cs, k.name.toList = c :: cs ∧ c ≠ ' ' ∧ (k ≠ .element → c ≠ 'e') := by
  cases k <;> exact ⟨_, _, rfl, by decide, by decide⟩

/-- What is said of an element besides its name. -/
def whereabouts (p : PageElement) : String :=
  match p.location? with
  | some l => " @" ++ toString l.line ++ ":" ++ toString l.column
  | none => ""

theorem caption_eq (p : PageElement) : caption p = "element::" ++ p.element.tagName ++ whereabouts p := by
  have name : (Event.element "" p).name = "element::" ++ p.element.tagName := by
    simp [Event.name, Event.kind, EventKind.name]
  cases h : p.location? with
  | none => simp only [caption, entry, whereabouts, h, name, String.append_empty]
  | some l => simp only [caption, entry, whereabouts, h, name, String.append_assoc]

theorem toList_caption (p : PageElement) :
    (caption p).toList = "element::".toList ++ (p.element.tagName.toList ++ (whereabouts p).toList) := by
  rw [caption_eq, String.toList_append, String.toList_append, List.append_assoc]

theorem toList_entry {e : Event} (h : e.kind ≠ .element) : ∃ rest, (entry e).toList = e.kind.name.toList ++ rest := by
  cases e with
  | element => exact absurd rfl h
  | fetchEnd f =>
    have name : entry (.fetchEnd f) = "fetch::end" ++ ("::" ++ f.type.name) := String.append_assoc ..
    exact ⟨("::" ++ f.type.name).toList, by rw [name, String.toList_append]; rfl⟩
  | _ => exact ⟨[], (List.append_nil _).symm⟩

theorem exists_of_kind_element {e : Event} (h : e.kind = .element) : ∃ r p, e = .element r p := by
  cases e with
  | element r p => exact ⟨r, p, rfl⟩
  | _ => cases h

/-- From the line of an event its row is read. -/
theorem row?_shown (e : Event) : row? (shown e) = rowOf e := by
  by_cases h : e.kind = .element
  · obtain ⟨r, p, rfl⟩ := exists_of_kind_element h
    have front : "element::".toList = 'e' :: "lement::".toList := by decide
    have text : entry (.element r p) = String.ofList ('e' :: ("lement::".toList ++ (p.element.tagName.toList ++
        (whereabouts p).toList))) := by
      rw [← List.cons_append, ← front, ← toList_caption, String.ofList_toList]
      rfl
    rw [shown, rowOf, if_pos h, text, row?_of_not_blank (by decide), ← List.cons_append, ← front, isOfElement_append]
    rfl
  · obtain ⟨rest, text⟩ := toList_entry h
    obtain ⟨c, cs, name, solid, other⟩ := exists_toList_name e.kind
    have text : entry e = String.ofList (c :: (cs ++ rest)) := by
      rw [← List.cons_append, ← name, ← text, String.ofList_toList]
    rw [shown, rowOf, if_neg h, text, row?_of_not_blank solid, isOfElement_cons_of_ne (other h)]
    rfl

section Grafts
variable {depth : Nat} {trees : List (Nat × Outline)}

theorem graft_of_deeper {inner : List Outline} (text : String) (shallow : ∀ t ∈ trees.head?, t.1 ≤ depth) :
    graft (depth, text) (inner.map (depth + 1, ·) ++ trees) = (depth, .node text inner) :: trees := by
  have deeper : ∀ t ∈ inner.map (depth + 1, ·), decide (depth < t.1) = true := by
    simp
  have stop : trees.takeWhile (fun t => depth < t.1) = [] ∧ trees.dropWhile (fun t => depth < t.1) = trees := by
    cases trees with
    | nil => exact ⟨rfl, rfl⟩
    | cons t trees =>
      have shut : ¬decide (depth < t.1) = true := by
        have := shallow t rfl
        simp only [decide_eq_true_eq]
        omega
      exact ⟨List.takeWhile_cons_of_neg shut, List.dropWhile_cons_of_neg shut⟩
  rw [graft, List.takeWhile_append_of_pos deeper, List.dropWhile_append_of_pos deeper, stop.1, stop.2]
  simp [Function.comp_def]

/-- The rows of siblings give their trees. -/
theorem foldr_flatMap {cs : List Element} {rows : Element → List (Nat × String)} {tree : Element → Outline}
    (each : ∀ c ∈ cs, ∀ later : List (Nat × Outline), (∀ t ∈ later.head?, t.1 ≤ depth) →
      (rows c).foldr graft later = (depth, tree c) :: later)
    (shallow : ∀ t ∈ trees.head?, t.1 ≤ depth) :
    (cs.flatMap rows).foldr graft trees = (cs.map tree).map (depth, ·) ++ trees := by
  induction cs with
  | nil => rfl
  | cons c cs ih =>
    rw [List.flatMap_cons, List.foldr_append, ih fun x hx => each x (List.mem_cons_of_mem _ hx)]
    refine each c (List.mem_cons_self ..) _ fun t ht => ?_
    cases cs with
    | nil => exact shallow t ht
    | cons c' cs =>
      obtain rfl := Option.some.inj ht
      exact Nat.le_refl depth

/-- The rows of what a walk tells of an element give the tree from this element on. -/
theorem foldr_visit (d : Document) (resource : String) (e : Element) (trees : List (Nat × Outline))
    (shallow : ∀ t ∈ trees.head?, t.1 ≤ e.ancestors.length) :
    ((visit d resource e).filterMap rowOf).foldr graft trees = (e.ancestors.length, outline d e) :: trees := by
  induction e using Element.children_induction generalizing trees with
  | step e ih =>
    have rows : (visit d resource e).filterMap rowOf = (e.ancestors.length, caption ⟨d, e⟩) ::
        e.children.flatMap fun c => (visit d resource c).filterMap rowOf := by
      rw [visit_eq, List.filterMap_append, List.filterMap_append, List.filterMap_flatMap]
      exact congrArg (_ :: ·) (List.append_nil _)
    have each : ∀ c ∈ e.children, ∀ later : List (Nat × Outline),
        (∀ t ∈ later.head?, t.1 ≤ e.ancestors.length + 1) →
          ((visit d resource c).filterMap rowOf).foldr graft later =
            (e.ancestors.length + 1, outline d c) :: later := by
      intro c hc later low
      have above : c.ancestors.length = e.ancestors.length + 1 :=
        congrArg List.length (Element.ancestors_of_mem_children hc)
      have below := ih c hc later
      rw [above] at below
      exact below low
    rw [rows, List.foldr_cons, foldr_flatMap each fun t ht => Nat.le_succ_of_le (shallow t ht),
      graft_of_deeper _ shallow, ← outline_eq]

end Grafts

/-- The lines of a cycle, and any lines behind them that are about no element, give the tree that was walked. -/
theorem readOutline_cycle (f : Fetch) (html : String) (page : OpenPage) {others : List String}
    (foreign : ∀ line ∈ others, row? line = none) :
    readOutline ((.fetchEnd f :: Cycle.sequence f html page).map shown ++ others) =
      some (outline page.document page.document.root) := by
  have none_foreign : others.filterMap row? = [] := List.filterMap_eq_nil_iff.mpr foreign
  have rows : (((Event.fetchEnd f :: Cycle.sequence f html page).map shown ++ others).filterMap row?) =
      (visit page.document f.resource page.document.root).filterMap rowOf := by
    rw [List.filterMap_append, none_foreign, List.append_nil, List.filterMap_map,
      show row? ∘ shown = rowOf from funext row?_shown, Cycle.sequence, events, List.cons_append]
    exact List.filterMap_append.trans (List.append_nil _)
  rw [readOutline, rows, foldr_visit _ _ _ [] fun _ no => by cases no]
  rfl

/-! ### What a line tells of an element -/

/-- Two texts that begin without a mark and go on with one or end are equal only if their parts are. -/
theorem parts_eq {mark : Char} {as bs cs ds : List Char} (ha : mark ∉ as) (hb : mark ∉ bs)
    (hc : ∀ c ∈ cs.head?, c = mark) (hd : ∀ d ∈ ds.head?, d = mark) (h : as ++ cs = bs ++ ds) : as = bs ∧ cs = ds := by
  have front : ∀ {xs ys : List Char}, mark ∉ xs → (∀ y ∈ ys.head?, y = mark) →
      (xs ++ ys).takeWhile (· != mark) = xs := by
    intro xs ys hx hy
    have free : ∀ x ∈ xs, (x != mark) = true := fun x hmem => bne_iff_ne.mpr fun same => hx (same ▸ hmem)
    rw [List.takeWhile_append_of_pos free]
    cases ys with
    | nil => simp
    | cons y ys => rw [List.takeWhile_cons_of_neg (by simp [hy y rfl]), List.append_nil]
  have same : as = bs := by rw [← front ha hc, h, front hb hd]
  exact ⟨same, List.append_cancel_left (same ▸ h)⟩

theorem toDigits_injective : Function.Injective (Nat.toDigits 10) := by
  let read (n : Nat) (c : Char) : Nat := n * 10 + (c.toNat - 48)
  have digit : ∀ d : Fin 10, (d.val.digitChar.toNat - 48) = d.val := by decide
  have left (n : Nat) : (Nat.toDigits 10 n).foldl read 0 = n := by
    induction n using Nat.strongRecOn with
    | ind n ih =>
      rw [Nat.toDigits_eq_if (by decide)]
      split
      next small => simp [read, digit ⟨n, small⟩]
      next large =>
        have last := digit ⟨n % 10, Nat.mod_lt n (by decide)⟩
        rw [List.foldl_append, ih (n / 10) (by omega)]
        simp only [List.foldl_cons, List.foldl_nil, read, last]
        omega
  exact Function.LeftInverse.injective left

theorem colon_not_mem_toDigits (n : Nat) : ':' ∉ Nat.toDigits 10 n := fun h =>
  absurd (Nat.isDigit_of_mem_toDigits (by decide) (by decide) h) (by decide)

theorem toList_whereabouts {p : PageElement} {l : Location} (h : p.location? = some l) :
    (whereabouts p).toList = ' ' :: '@' :: (Nat.toDigits 10 l.line ++ ':' :: Nat.toDigits 10 l.column) := by
  have digits (n : Nat) : (toString n).toList = Nat.toDigits 10 n := String.toList_ofList
  have signs : " @".toList = [' ', '@'] ∧ ":".toList = [':'] := by decide
  simp only [whereabouts, h, String.toList_append, digits, signs.1, signs.2, List.append_assoc, List.cons_append,
    List.nil_append]

theorem toList_whereabouts_of_none {p : PageElement} (h : p.location? = none) : (whereabouts p).toList = [] := by
  rw [whereabouts, h]
  rfl

/-- What is said of an element besides its name is where its tag stands. -/
theorem whereabouts_eq_iff {p q : PageElement} : (whereabouts p).toList = (whereabouts q).toList ↔
    (p.location?.map fun l => (l.line, l.column)) = q.location?.map fun l => (l.line, l.column) := by
  cases hp : p.location? with
  | none =>
    cases hq : q.location? with
    | none => rw [toList_whereabouts_of_none hp, toList_whereabouts_of_none hq]; simp
    | some l => rw [toList_whereabouts_of_none hp, toList_whereabouts hq]; simp
  | some l =>
    cases hq : q.location? with
    | none => rw [toList_whereabouts hp, toList_whereabouts_of_none hq]; simp
    | some l' =>
      rw [toList_whereabouts hp, toList_whereabouts hq]
      simp only [List.cons.injEq, true_and, Option.map_some, Option.some.injEq, Prod.mk.injEq]
      constructor
      · intro same
        obtain ⟨line, column⟩ := parts_eq (colon_not_mem_toDigits _) (colon_not_mem_toDigits _) (by simp) (by simp) same
        exact ⟨toDigits_injective line, toDigits_injective (List.cons.inj column).2⟩
      · rintro ⟨line, column⟩
        rw [line, column]

theorem head_whereabouts (p : PageElement) : ∀ c ∈ (whereabouts p).toList.head?, c = ' ' := by
  cases h : p.location? with
  | none => rw [toList_whereabouts_of_none h]; simp
  | some l => rw [toList_whereabouts h]; simp

/-- Where no tag name has a blank, the line of an element tells its tag name and the line and column of its tag. -/
theorem caption_eq_iff {p q : PageElement} (hp : ' ' ∉ p.element.tagName.toList)
    (hq : ' ' ∉ q.element.tagName.toList) : caption p = caption q ↔ p.element.tagName = q.element.tagName ∧
      (p.location?.map fun l => (l.line, l.column)) = q.location?.map fun l => (l.line, l.column) := by
  rw [← whereabouts_eq_iff, ← String.toList_inj, toList_caption, toList_caption, ← String.toList_inj,
    List.append_cancel_left_eq]
  exact ⟨parts_eq hp hq (head_whereabouts p) (head_whereabouts q), fun ⟨name, place⟩ => by rw [name, place]⟩

end Command.Listing

end Pagewalk
