import Pagewalk.Event.Routine

/-!
# Walks

A walk meets the elements of a document from the root down. Each element is told of, the walk goes down into it,
then through its children in order, and up again; the whole is between a start and an end. `visit` is the list of
these events by recursion on the tree, and `walk` goes through the tree with a stack of the elements whose children
are not all met.
-/

namespace Pagewalk

mutual

/-- The number of nodes in a tree. -/
def Node.size : Node → Nat
  | .element _ kids => Node.sizeOfAll kids + 1
  | .fragment kids => Node.sizeOfAll kids + 1
  | .text _ => 1
  | .comment _ => 1

/-- The number of nodes in siblings and below them. -/
def Node.sizeOfAll : List Node → Nat
  | [] => 0
  | n :: ns => Node.size n + Node.sizeOfAll ns

end

namespace Element

/-- The number of nodes from an element down. -/
def size (e : Element) : Nat := e.node.size

/-- The number of nodes from some elements down. -/
def sizeOfAll (es : List Element) : Nat := es.foldr (fun e n => e.size + n) 0

theorem sizeOfAll_nil : sizeOfAll [] = 0 := rfl

theorem sizeOfAll_cons (e : Element) (es : List Element) : sizeOfAll (e :: es) = e.size + sizeOfAll es := rfl

theorem ofKids_element (above : Trail) (place : Nat) (data : ElementData) (kids ns : List Node) :
    ofKids above place (.element data kids :: ns) = ⟨data, kids, place, above⟩ :: ofKids above (place + 1) ns := rfl

theorem ofKids_fragment (above : Trail) (place : Nat) (kids ns : List Node) :
    ofKids above place (.fragment kids :: ns) = ofKids above (place + 1) ns := rfl

theorem ofKids_text (above : Trail) (place : Nat) (s : String) (ns : List Node) :
    ofKids above place (.text s :: ns) = ofKids above (place + 1) ns := rfl

theorem ofKids_comment (above : Trail) (place : Nat) (s : String) (ns : List Node) :
    ofKids above place (.comment s :: ns) = ofKids above (place + 1) ns := rfl

/-- The elements among siblings hold no more nodes than all the siblings. -/
theorem sizeOfAll_ofKids_le (above : Trail) (kids : List Node) (place : Nat) :
    sizeOfAll (ofKids above place kids) ≤ Node.sizeOfAll kids := by
  induction kids generalizing place with
  | nil => exact Nat.le_refl 0
  | cons n ns ih =>
    have rest := ih (place + 1)
    cases n with
    | element data kids =>
      rw [ofKids_element, sizeOfAll_cons, Node.sizeOfAll]
      exact Nat.add_le_add (Nat.le_refl _) rest
    | fragment kids => rw [ofKids_fragment, Node.sizeOfAll]; omega
    | text s => rw [ofKids_text, Node.sizeOfAll]; omega
    | comment s => rw [ofKids_comment, Node.sizeOfAll]; omega

/-- What is below an element is smaller than the element. -/
theorem sizeOfAll_children_lt (e : Element) : sizeOfAll e.children < e.size := by
  have h := sizeOfAll_ofKids_le e.trail e.kids 0
  simp only [children, size, node, Node.size]
  omega

/-- One of some elements is no larger than all of them. -/
theorem size_le_sizeOfAll {e : Element} {es : List Element} (h : e ∈ es) : e.size ≤ sizeOfAll es := by
  induction es with
  | nil => cases h
  | cons f fs ih =>
    rw [sizeOfAll_cons]
    cases h with
    | head => omega
    | tail _ h => have := ih h; omega

theorem size_lt_of_mem_children {e c : Element} (h : c ∈ e.children) : c.size < e.size :=
  Nat.lt_of_le_of_lt (size_le_sizeOfAll h) (sizeOfAll_children_lt e)

end Element

namespace Walk

/-- The events with which a walk enters an element. -/
def entering (d : Document) (resource : String) (e : Element) : List Event :=
  [.element resource ⟨d, e⟩, .traverseDown resource ⟨d, e⟩]

/-- The event with which a walk leaves an element. -/
def leaving (d : Document) (resource : String) (e : Element) : Event := .traverseUp resource ⟨d, e⟩

/-- The events of an element and of all that is below it. -/
def visit (d : Document) (resource : String) (e : Element) : List Event :=
  entering d resource e ++ e.children.attach.flatMap (fun c => visit d resource c.1) ++ [leaving d resource e]
termination_by e.size
decreasing_by exact Element.size_lt_of_mem_children c.2

/-- The events of a whole walk. -/
def events (d : Document) (resource : String) : List Event :=
  .traverseStart resource :: visit d resource d.root ++ [.traverseEnd resource]

/-- An element that was entered, with its children that are not met yet. -/
structure Frame where
  element : Element
  ahead : List Element

/-- What is left of a walk: one for each frame to be left, and more for each node ahead. -/
def left (frames : List Frame) : Nat := frames.foldr (fun f n => 2 * Element.sizeOfAll f.ahead + 1 + n) 0

/-- The frame of an element that was just entered. -/
def Frame.of (e : Element) : Frame := ⟨e, e.children⟩

variable {σ : Type}

/-- Walks on from a stack of frames, innermost first; `met` is the number of elements met so far, and `next` is
told of their number in the end. -/
def onward (d : Document) (resource : String) : List Frame → Nat → (Nat → Routine σ) → Routine σ
  | [], met, next => next met
  | ⟨e, []⟩ :: frames, met, next =>
    .announce (leaving d resource e) fun _ => onward d resource frames met next
  | ⟨e, c :: ahead⟩ :: frames, met, next =>
    .announceAll (entering d resource c) fun _ => onward d resource (.of c :: ⟨e, ahead⟩ :: frames) (met + 1) next
termination_by frames => left frames
decreasing_by
  · simp only [left, List.foldr_cons, Element.sizeOfAll_nil]
    omega
  · have := Element.sizeOfAll_children_lt c
    simp only [left, Frame.of, List.foldr_cons, Element.sizeOfAll_cons]
    omega

/-- The record about a walk that came to its end. -/
def record (resource : String) (met : Nat) : Log.Record :=
  ⟨.debug, .walk, "traversed " ++ toString met ++ " elements of " ++ resource⟩

end Walk

/-- Walks through a document, as long as no listener gives up. -/
def Document.walk {σ : Type} (d : Document) (resource : String) : Routine σ :=
  .announce (.traverseStart resource) fun _ =>
    .announceAll (Walk.entering d resource d.root) fun _ =>
      Walk.onward d resource [.of d.root] 1 fun met =>
        .announce (.traverseEnd resource) fun _ => .note [Walk.record resource met] fun _ => .ok

end Pagewalk
