import Pagewalk.Proofs.Source.StartTags
import Pagewalk.Source.Position

/-!
# Positions of start tags

A location keeps the offset that it was made for, so a start tag of a source has the offset at which the source
opens it, and no two start tags have the same one.
-/

namespace Pagewalk.Source

/-- The locations that are reached are those of the first offsets, each with its offset. -/
theorem reached_offsets (p : Position) (acc : List Location) (os : List Nat) :
    ∃ found, os = found ++ (reached p acc os).2 ∧
      (reached p acc os).1.map (·.offset) = found.reverse ++ acc.map (·.offset) := by
  induction os generalizing acc with
  | nil => exact ⟨[], rfl, rfl⟩
  | cons o os ih =>
    rw [reached]
    split
    · obtain ⟨found, hleft, hfound⟩ := ih (⟨p.location.line, p.location.column, o⟩ :: acc)
      refine ⟨o :: found, congrArg (o :: ·) hleft, ?_⟩
      rw [hfound, List.reverse_cons, List.append_assoc]
      rfl
    · exact ⟨[], rfl, rfl⟩

/-- The locations of offsets have these offsets, as far as they go. -/
theorem locationsFrom_offsets (p : Position) (acc : List Location) (os : List Nat) (cs : List Char) :
    ∃ found, found <+: os ∧
      (locationsFrom p acc os cs).map (·.offset) = (acc.map (·.offset)).reverse ++ found := by
  induction cs generalizing p acc os with
  | nil => exact ⟨[], List.nil_prefix, by rw [locationsFrom, List.map_reverse, List.append_nil]⟩
  | cons c cs ih =>
    obtain ⟨found, hleft, hfound⟩ := reached_offsets p acc os
    rw [locationsFrom]
    split
    · rename_i acc' hreached
      rw [hreached, List.append_nil] at hleft
      rw [hreached] at hfound
      refine ⟨found, hleft ▸ List.prefix_rfl, ?_⟩
      rw [List.map_reverse, hfound, List.reverse_append, List.reverse_reverse]
    · rename_i acc' left _ hreached
      rw [hreached] at hleft hfound
      obtain ⟨more, hmore, hlocations⟩ := ih (p.next c) acc' left
      refine ⟨found ++ more, ?_, ?_⟩
      · rw [hleft]
        exact (List.prefix_append_right_inj found).mpr hmore
      · rw [hlocations, hfound, List.reverse_append, List.reverse_reverse, List.append_assoc]

theorem locations_offsets (source : List Char) (os : List Nat) :
    (locations source os).map (·.offset) <+: os := by
  obtain ⟨found, hfound, h⟩ := locationsFrom_offsets .start [] os source
  rw [locations, h]
  exact hfound

/-- The start tags of a source are reported tags, each with its offset. -/
theorem startTags_reported (source : String) :
    (startTags source).map (fun t => (t.name, t.location.offset)) <+: tagsOf 0 (segments source.toList) := by
  have zipped : ∀ (tags : List (String × Nat)) (ls : List Location), ls.map (·.offset) <+: tags.map (·.2) →
      ((tags.zip ls).map fun x => (⟨x.1.1, x.2⟩ : StartTag)).map (fun t => (t.name, t.location.offset)) <+: tags := by
    intro tags
    induction tags with
    | nil => exact fun _ _ => List.nil_prefix
    | cons tag tags ih =>
      intro ls h
      cases ls with
      | nil => exact List.nil_prefix
      | cons l ls =>
        rw [List.map_cons, List.map_cons, List.cons_prefix_cons] at h
        rw [List.zip_cons_cons, List.map_cons, List.map_cons, List.cons_prefix_cons]
        exact ⟨Prod.ext rfl h.1, ih ls h.2⟩
  exact zipped _ _ (locations_offsets _ _)

/-- A start tag stands where the source opens it. -/
theorem opens_of_mem_startTags {source : String} {t : StartTag} (h : t ∈ startTags source) :
    ∃ before rest, source.toList = before ++ rest ∧ t.location.offset = byteLength before ∧ Opens t.name rest := by
  have reported := (startTags_reported source).subset (List.mem_map_of_mem h)
  obtain ⟨before, rest, split, ho, opens⟩ := opens_of_mem_tagsOf reported
  exact ⟨before, rest, split, ho.trans (Nat.zero_add _), opens⟩

theorem nodup_locations (source : String) : ((startTags source).map (·.location)).Nodup := by
  have ascend := (pairwise_tagsOf 0 source.toList.length source.toList).sublist (startTags_reported source).sublist
  rw [List.pairwise_map] at ascend
  rw [List.nodup_iff_pairwise_ne, List.pairwise_map]
  exact ascend.imp fun {s t} hlt same => Nat.ne_of_lt hlt (congrArg Location.offset same)

end Pagewalk.Source
