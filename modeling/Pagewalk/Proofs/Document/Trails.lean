import Mathlib.Data.List.Nodup
import Pagewalk.Document.Basic

/-!
# Trails and keys

The trail of a node ends with the trail from which its listing began, so a place that is passed on the way down is
found again in every trail below it. The keys of a listing are in document order, so no two trails of it have the same
key; an element of a document is therefore known by its key.
-/

namespace Pagewalk

/-! ### Trails of a listing -/

mutual

/-- The trails listed from a node go through the node. -/
theorem Node.mem_trails {above : Trail} {place : Nat} {n : Node} {t : Trail} (h : t ∈ Node.trails above place n) :
    ∃ below, t = below ++ ⟨place, n⟩ :: above := by
  cases n with
  | element data kids =>
    rw [Node.trails, List.mem_cons] at h
    rcases h with rfl | h
    · exact ⟨[], rfl⟩
    · obtain ⟨below, i, kid, -, rfl⟩ := Node.mem_trailsOfAll h
      exact ⟨below ++ [⟨0 + i, kid⟩], by simp⟩
  | fragment kids =>
    rw [Node.trails, List.mem_cons] at h
    rcases h with rfl | h
    · exact ⟨[], rfl⟩
    · obtain ⟨below, i, kid, -, rfl⟩ := Node.mem_trailsOfAll h
      exact ⟨below ++ [⟨0 + i, kid⟩], by simp⟩
  | text s =>
    rw [Node.trails, List.mem_singleton] at h
    exact ⟨[], h⟩
  | comment s =>
    rw [Node.trails, List.mem_singleton] at h
    exact ⟨[], h⟩

/-- The trails listed from siblings go through one of them. -/
theorem Node.mem_trailsOfAll {above : Trail} {place : Nat} {ns : List Node} {t : Trail}
    (h : t ∈ Node.trailsOfAll above place ns) :
    ∃ below i n, ns[i]? = some n ∧ t = below ++ ⟨place + i, n⟩ :: above := by
  cases ns with
  | nil => cases h
  | cons n ns =>
    rw [Node.trailsOfAll, List.mem_append] at h
    rcases h with h | h
    · obtain ⟨below, rfl⟩ := Node.mem_trails h
      exact ⟨below, 0, n, rfl, rfl⟩
    · obtain ⟨below, i, kid, hi, rfl⟩ := Node.mem_trailsOfAll h
      exact ⟨below, i + 1, kid, hi, by rw [Nat.add_assoc, Nat.add_comm 1 i]⟩

end

/-! ### Keys -/

theorem Trail.key_append (s t : Trail) : Trail.key (s ++ t) = Trail.key s ++ Trail.key t := List.map_append

theorem Trail.key_cons (s : Step) (t : Trail) : Trail.key (s :: t) = s.place :: Trail.key t := rfl

/-- Read from the outermost place, a key begins with the places of the nodes above. -/
theorem Trail.key_reverse_append (below above : Trail) (s : Step) :
    (Trail.key (below ++ s :: above)).reverse = (Trail.key above).reverse ++ s.place :: (Trail.key below).reverse := by
  rw [Trail.key_append, Trail.key_cons, List.reverse_append, List.reverse_cons, List.append_assoc,
    List.singleton_append]

/-- A key comes before another in document order: read from the outermost place it is the lesser word. So a node comes
before what is below it, and with all of this before what stands in a later place. -/
def Key.Before (k l : Key) : Prop := k.reverse < l.reverse

theorem Key.Before.ne {k l : Key} (h : k.Before l) : k ≠ l := by
  rintro rfl
  exact List.lt_irrefl _ h

/-- No key is the end of one that comes before it. -/
theorem Key.Before.not_suffix {k l : Key} (h : k.Before l) : ¬ l <:+ k := fun suffix =>
  (List.reverse_prefix.mpr suffix).le h

mutual

/-- The keys of a listing are in document order. -/
theorem Node.rising_trails (above : Trail) (place : Nat) (n : Node) :
    (Node.trails above place n).Pairwise fun s t => (Trail.key s).Before (Trail.key t) := by
  have under (here : Trail) (kids : List Node) :
      ∀ t ∈ Node.trailsOfAll here 0 kids, (Trail.key here).Before (Trail.key t) := by
    intro t ht
    obtain ⟨below, i, kid, -, rfl⟩ := Node.mem_trailsOfAll ht
    have lower : (Trail.key here).reverse ++ [] < (Trail.key here).reverse ++ (0 + i) :: (Trail.key below).reverse :=
      List.append_left_lt (List.nil_lt_cons ..)
    rw [List.append_nil] at lower
    rwa [Key.Before, Trail.key_reverse_append]
  cases n with
  | element data kids => exact List.pairwise_cons.mpr ⟨under _ kids, Node.rising_trailsOfAll _ 0 kids⟩
  | fragment kids => exact List.pairwise_cons.mpr ⟨under _ kids, Node.rising_trailsOfAll _ 0 kids⟩
  | text s => exact List.pairwise_singleton _ _
  | comment s => exact List.pairwise_singleton _ _

theorem Node.rising_trailsOfAll (above : Trail) (place : Nat) (ns : List Node) :
    (Node.trailsOfAll above place ns).Pairwise fun s t => (Trail.key s).Before (Trail.key t) := by
  cases ns with
  | nil => exact .nil
  | cons n ns =>
    rw [Node.trailsOfAll, List.pairwise_append]
    refine ⟨Node.rising_trails above place n, Node.rising_trailsOfAll above (place + 1) ns, ?_⟩
    intro s hs t ht
    obtain ⟨below, rfl⟩ := Node.mem_trails hs
    obtain ⟨below', i, kid, -, rfl⟩ := Node.mem_trailsOfAll ht
    rw [Key.Before, Trail.key_reverse_append, Trail.key_reverse_append]
    refine List.append_left_lt (.rel ?_)
    show place < place + 1 + i
    omega

end

/-- No two trails listed from a node have the same key. -/
theorem Node.nodup_trails (above : Trail) (place : Nat) (n : Node) :
    ((Node.trails above place n).map Trail.key).Nodup :=
  List.pairwise_map.mpr ((Node.rising_trails above place n).imp Key.Before.ne)

theorem Node.nodup_trailsOfAll (above : Trail) (place : Nat) (ns : List Node) :
    ((Node.trailsOfAll above place ns).map Trail.key).Nodup :=
  List.pairwise_map.mpr ((Node.rising_trailsOfAll above place ns).imp Key.Before.ne)

/-! ### Elements -/

namespace Element

theorem trail_of_ofTrail? {t : Trail} {e : Element} (h : ofTrail? t = some e) : e.trail = t := by
  unfold ofTrail? at h
  split at h
  · cases h
    rfl
  · cases h

/-- The elements of a listing have keys of the listing, each once. -/
theorem nodup_keys {ts : List Trail} (h : (ts.map Trail.key).Nodup) : ((ts.filterMap ofTrail?).map key).Nodup := by
  have sub : ((ts.filterMap ofTrail?).map key).Sublist (ts.map Trail.key) := by
    induction ts with
    | nil => exact .slnil
    | cons t ts ih =>
      rw [List.map_cons, List.nodup_cons] at h
      cases ht : ofTrail? t with
      | none =>
        rw [List.filterMap_cons_none ht]
        exact (ih h.2).cons _
      | some e =>
        rw [List.filterMap_cons_some ht, List.map_cons, List.map_cons, key, trail_of_ofTrail? ht]
        exact (ih h.2).cons_cons _
  exact h.sublist sub

end Element

namespace Document

theorem nodup_keys (d : Document) : (d.elements.map Element.key).Nodup :=
  Element.nodup_keys (Node.nodup_trails [] 0 d.root.node)

theorem eq_of_key {d : Document} {e f : Element} (he : e ∈ d.elements) (hf : f ∈ d.elements) (h : e.key = f.key) :
    e = f :=
  List.inj_on_of_nodup_map d.nodup_keys he hf h

end Document

end Pagewalk
