import Pagewalk.Proofs.Document.Trails
import Pagewalk.Proofs.Page
import Pagewalk.Proofs.Source.Pairing
import Pagewalk.Proofs.Source.Positions
import Pagewalk.Proofs.Text.Encodings

/-!
# Located elements

An element is located only where the bytes of the source open a tag of its name, and no two elements at the same
place. What the elements are does not matter: a pairing takes tags that the source has, each for an element that
it produces, and none of them twice.
-/

namespace Pagewalk

open Text

/-! ### Bytes at a tag -/

namespace Source

/-- The bytes that end the name of a tag: the five blanks, a slash and `>`. -/
def nameEnds : List UInt8 := [0x09, 0x0A, 0x0C, 0x0D, 0x20, 0x2F, 0x3E]

/-- The bytes from an offset on open a start tag of this name, in any case. -/
structure TagAt (bytes : List UInt8) (offset : Nat) (name : String) : Prop where
  opens : bytes[offset]? = some 0x3C
  letters : ((bytes.drop (offset + 1)).take (Utf8.encode name).length).map Utf8.lowerByte =
    (Utf8.encode name).map Utf8.lowerByte
  ends : ∃ b ∈ nameEnds, bytes[offset + 1 + (Utf8.encode name).length]? = some b

/-- Bytes that are cut as a tag is written open the tag where the cut is. -/
theorem TagAt.of_append {before written after : List UInt8} {b : UInt8} {name : String}
    (letters : written.map Utf8.lowerByte = (Utf8.encode name).map Utf8.lowerByte) (hb : b ∈ nameEnds) :
    TagAt (before ++ 0x3C :: (written ++ b :: after)) before.length name := by
  have length : (Utf8.encode name).length = written.length := by
    rw [← List.length_map, ← letters, List.length_map]
  have front : (before ++ [0x3C]).length = before.length + 1 := List.length_append
  refine ⟨?_, ?_, b, hb, ?_⟩
  · rw [List.getElem?_append_right (Nat.le_refl _), Nat.sub_self]
    rfl
  · rw [List.append_cons, List.drop_left' front, List.take_left' length.symm]
    exact letters
  · rw [List.append_cons, length, ← front, ← List.length_append, ← List.append_assoc,
      List.getElem?_append_right (Nat.le_refl _), Nat.sub_self]
    rfl

theorem length_flatMap_utf8 (cs : List Char) : (cs.flatMap String.utf8EncodeChar).length = byteLength cs := by
  induction cs with
  | nil => rfl
  | cons c cs ih => rw [List.flatMap_cons, List.length_append, String.length_utf8EncodeChar, ih, byteLength_cons]

/-- A character that is none of a name is one byte that ends the name. -/
theorem nameEnds_of_not_isNameChar {c : Char} (h : isNameChar c = false) :
    ∃ b ∈ nameEnds, String.utf8EncodeChar c = [b] := by
  simp only [isNameChar, isSpace, Bool.not_eq_false', Bool.or_eq_true, beq_iff_eq] at h
  rcases h with (((((rfl | rfl) | rfl) | rfl) | rfl) | rfl) | rfl <;> exact ⟨_, by decide, rfl⟩

/-- Where the characters of a source open a tag, its bytes do. -/
theorem tagAt_of_opens {source name element : String} {before rest : List Char}
    (split : source.toList = before ++ rest) (opens : Opens name rest) (same : lower element = name) :
    TagAt (Utf8.encode source) (byteLength before) element := by
  obtain ⟨written, c, after, rfl, hname, hc⟩ := opens
  obtain ⟨b, hb, hbyte⟩ := nameEnds_of_not_isNameChar hc
  have bytes : Utf8.encode source = before.flatMap String.utf8EncodeChar ++
      0x3C :: (written.flatMap String.utf8EncodeChar ++ b :: after.flatMap String.utf8EncodeChar) := by
    rw [Utf8.encode, split, List.flatMap_append, List.flatMap_cons, List.flatMap_append, List.flatMap_cons, hbyte]
    rfl
  have letters : (written.flatMap String.utf8EncodeChar).map Utf8.lowerByte =
      (Utf8.encode element).map Utf8.lowerByte := by
    rw [← Utf8.encode_lower, same, ← hname, Utf8.encode_lower, Utf8.encode, String.toList_ofList]
  rw [bytes, ← length_flatMap_utf8]
  exact .of_append letters hb

/-- Where a tag produces an element, its name and the element's have the same letters, or it is an `image` for an
`img`. -/
theorem produces_eq_true {tag element : String} (h : produces tag element = true) :
    lower tag = lower element ∨ tag = "image" ∧ element = "img" := by
  rw [produces, Bool.or_eq_true, Bool.and_eq_true, beq_iff_eq, beq_iff_eq, sameLetters, beq_iff_eq] at h
  exact h

/-- A start tag stands where the bytes of its source open it, and so they open each element that it produces. -/
theorem tagAt_of_produces {source element : String} {t : StartTag} (ht : t ∈ startTags source)
    (h : produces t.name element = true) :
    TagAt (Utf8.encode source) t.location.offset element ∨
      element = "img" ∧ TagAt (Utf8.encode source) t.location.offset "image" := by
  obtain ⟨before, rest, split, offset, opens⟩ := opens_of_mem_startTags ht
  have small : lower t.name = t.name := by
    obtain ⟨_, _, _, -, hname, -⟩ := opens
    rw [← hname, lower_lower]
  rw [offset]
  rcases produces_eq_true h with same | ⟨himage, himg⟩
  · exact .inl (tagAt_of_opens split opens (same.symm.trans small))
  · exact .inr ⟨himg, tagAt_of_opens split opens (himage ▸ small)⟩

/-! ### Rows -/

/-- The keys of the elements that have a location, each with it. -/
def rows (es : List Element) (found : List (Option Location)) : List (Key × Location) :=
  (es.zip found).filterMap fun (e, l) => l.map (e.key, ·)

theorem locate_eq_rows (source : String) (d : Document) : locate source d =
    rows d.elements (pair (d.elements.map (·.localName)) ((startTags source).map some)) := rfl

theorem mem_rows {es : List Element} {found : List (Option Location)} {k : Key} {l : Location} :
    (k, l) ∈ rows es found ↔ ∃ (i : Nat) (e : Element), es[i]? = some e ∧ e.key = k ∧ found[i]? = some (some l) := by
  rw [rows, List.mem_filterMap]
  constructor
  · rintro ⟨⟨e, l?⟩, hmem, hrow⟩
    obtain ⟨i, hi⟩ := List.mem_iff_getElem?.mp hmem
    obtain ⟨he, hl⟩ := List.getElem?_zip_eq_some.mp hi
    obtain ⟨l', rfl, same⟩ := Option.map_eq_some_iff.mp hrow
    obtain ⟨rfl, rfl⟩ := Prod.mk.inj same
    exact ⟨i, e, he, rfl, hl⟩
  · rintro ⟨i, e, he, rfl, hl⟩
    exact ⟨(e, some l), List.mem_iff_getElem?.mpr ⟨i, List.getElem?_zip_eq_some.mpr ⟨he, hl⟩⟩, rfl⟩

/-- In a list of elements with different keys a key tells the place. -/
theorem place_eq_of_key {es : List Element} (nodup : (es.map Element.key).Nodup) {i j : Nat} {e f : Element}
    (he : es[i]? = some e) (hf : es[j]? = some f) (same : e.key = f.key) : i = j := by
  have hkey : (es.map Element.key)[i]? = (es.map Element.key)[j]? := by
    rw [List.getElem?_map, List.getElem?_map, he, hf, Option.map_some, Option.map_some, same]
  have hi : i < (es.map Element.key).length := by
    rw [List.length_map]
    exact (List.getElem?_eq_some_iff.mp he).1
  exact (List.getElem?_inj hi nodup).mp hkey

/-- What was found for elements with different keys can be read back from their rows. -/
theorem rows_inj {es : List Element} {found found' : List (Option Location)} (nodup : (es.map Element.key).Nodup)
    (h : es.length = found.length) (h' : es.length = found'.length) : rows es found = rows es found' ↔ found = found' := by
  refine ⟨fun same => ?_, congrArg (rows es)⟩
  have back : ∀ {found found' : List (Option Location)}, es.length = found.length → rows es found = rows es found' →
      ∀ (i : Nat) (l : Location), found[i]? = some (some l) → found'[i]? = some (some l) := by
    intro found found' h same i l hl
    have hi : i < es.length := h ▸ (List.getElem?_eq_some_iff.mp hl).1
    have hrow : (es[i].key, l) ∈ rows es found := mem_rows.mpr ⟨i, es[i], List.getElem?_eq_getElem hi, rfl, hl⟩
    obtain ⟨j, e, he, hkey, hl'⟩ := mem_rows.mp (same ▸ hrow)
    rwa [place_eq_of_key nodup he (List.getElem?_eq_getElem hi) hkey] at hl'
  refine List.ext_getElem (h.symm.trans h') fun i hi hi' => Option.ext fun l => ?_
  have there := back h same i l
  have here := back h' same.symm i l
  rw [List.getElem?_eq_getElem hi, List.getElem?_eq_getElem hi', Option.some_inj, Option.some_inj] at there here
  exact ⟨there, here⟩

/-- The locations of rows are those of the tags that are taken. -/
theorem rows_locations {es : List Element} {taken : List (Option StartTag)} (h : es.length = taken.length) :
    (rows es (taken.map (·.map (·.location)))).map (·.2) = (held taken).map (·.location) := by
  induction es generalizing taken with
  | nil =>
    rw [List.eq_nil_of_length_eq_zero h.symm]
    rfl
  | cons e es ih =>
    obtain ⟨first, taken, rfl⟩ := List.exists_cons_of_length_eq_add_one h.symm
    have hrest := ih (Nat.succ.inj h)
    cases first with
    | none => exact hrest
    | some t => exact congrArg (t.location :: ·) hrest

/-- A row is that of an element and of a tag that it takes. -/
theorem exists_of_mem_rows {es : List Element} {taken : List (Option StartTag)} {k : Key} {l : Location}
    (paired : List.Forall₂ (fun e t? => ∀ t ∈ t?, produces t.name e.localName = true) es taken)
    (h : (k, l) ∈ rows es (taken.map (·.map (·.location)))) :
    ∃ e ∈ es, e.key = k ∧ ∃ t ∈ held taken, t.location = l ∧ produces t.name e.localName = true := by
  induction paired with
  | nil => cases h
  | @cons e first es taken hp _ ih =>
    cases first with
    | none =>
      obtain ⟨f, hf, hk, t, ht, hl⟩ := ih h
      exact ⟨f, List.mem_cons_of_mem _ hf, hk, t, ht, hl⟩
    | some t =>
      rcases List.mem_cons.mp h with h | h
      · obtain ⟨rfl, rfl⟩ := Prod.mk.inj h
        exact ⟨e, List.mem_cons_self .., rfl, t, List.mem_cons_self .., rfl, hp t rfl⟩
      · obtain ⟨f, hf, hk, u, hu, hl⟩ := ih h
        exact ⟨f, List.mem_cons_of_mem _ hf, hk, u, List.mem_cons_of_mem _ hu, hl⟩

/-- The rows of a document are of its elements, each with a tag of the source that produces it, and no two rows
have the same location. -/
theorem locate_takes (source : String) (d : Document) :
    ((locate source d).map (·.2)).Nodup ∧ ∀ k l, (k, l) ∈ locate source d →
      ∃ e ∈ d.elements, e.key = k ∧ ∃ t ∈ startTags source, t.location = l ∧ produces t.name e.localName = true := by
  obtain ⟨taken, hpair, paired, hsub⟩ := pair_takes (d.elements.map (·.localName)) ((startTags source).map some)
  rw [held_map_some] at hsub
  rw [List.forall₂_map_left_iff] at paired
  rw [locate_eq_rows, hpair]
  constructor
  · rw [rows_locations paired.length_eq]
    obtain ⟨found, hperm, hsublist⟩ := hsub
    exact (hperm.map _).nodup_iff.mp ((nodup_locations source).sublist (hsublist.map _))
  · intro k l h
    obtain ⟨e, he, hk, t, ht, hl⟩ := exists_of_mem_rows paired h
    exact ⟨e, he, hk, t, hsub.subset ht, hl⟩

end Source

namespace Document

/-- A location that is found was added, or was there before. -/
theorem mem_or_of_location? {d : Document} {rows : List (Key × Location)} {e : Element} {l : Location}
    (h : (d.withLocations rows).location? e = some l) : (e.key, l) ∈ rows ∨ d.location? e = some l := by
  have insert : ∀ (rows : List (Key × Location)) (m : Std.HashMap Key Location),
      (rows.foldl (fun m row => m.insert row.1 row.2) m)[e.key]? = some l →
        (e.key, l) ∈ rows ∨ m[e.key]? = some l := by
    intro rows
    induction rows with
    | nil => exact fun m h => .inr h
    | cons row rows ih =>
      intro m h
      rcases ih _ h with h | h
      · exact .inl (List.mem_cons_of_mem _ h)
      · rw [Std.HashMap.getElem?_insert] at h
        split at h
        · rename_i same
          obtain rfl := Option.some.inj h
          exact .inl (List.mem_cons.mpr (.inl (Prod.ext (beq_iff_eq.mp same).symm rfl)))
        · exact .inr h
  exact insert rows d.locations h

/-- Each location of a document is that of a tag that the source opens there and that has the name of the element,
where an `img` may be written `image`; and no two elements have the same location. -/
structure LocatesTags (source : String) (d : Document) : Prop where
  opens : ∀ e ∈ d.elements, ∀ l, d.location? e = some l →
    Source.TagAt (Utf8.encode source) l.offset e.localName ∨
      e.localName = "img" ∧ Source.TagAt (Utf8.encode source) l.offset "image"
  distinct : ∀ e ∈ d.elements, ∀ f ∈ d.elements, ∀ l, d.location? e = some l → d.location? f = some l → e = f

/-- Whatever tree is located in a source, its locations are tags of the source. -/
theorem locatesTags_locate {source : String} {tree : Document} (fresh : tree.locations = ∅) :
    LocatesTags source (tree.withLocations (Source.locate source tree)) := by
  obtain ⟨nodup, takes⟩ := Source.locate_takes source tree
  have added : ∀ {e l}, (tree.withLocations (Source.locate source tree)).location? e = some l →
      (e.key, l) ∈ Source.locate source tree := by
    intro e l h
    rcases mem_or_of_location? h with h | h
    · exact h
    · rw [location?, fresh, Std.HashMap.getElem?_empty] at h
      cases h
  constructor
  · intro e he l hl
    obtain ⟨f, hf, hkey, t, ht, rfl, hp⟩ := takes _ _ (added hl)
    obtain rfl := eq_of_key hf he hkey
    exact Source.tagAt_of_produces ht hp
  · intro e he f hf l hel hfl
    have same := List.inj_on_of_nodup_map nodup (added hel) (added hfl) rfl
    exact eq_of_key he hf (Prod.mk.inj same).1

/-- The locations of a page that is read are tags of its source, and so are those of any tree that is located in a
source. -/
theorem locations_open_tags (source : String) :
    (∀ tree : Document, tree.locations = ∅ → LocatesTags source (tree.withLocations (Source.locate source tree))) ∧
      ∀ (config : PageConfig) (d : Document), (parse config source).2 = .ok d → LocatesTags source d := by
  refine ⟨fun tree fresh => locatesTags_locate fresh, fun config d h => ?_⟩
  rw [eq_located_of_parse h]
  exact locatesTags_locate rfl

/-- A page with an `img` that is written `IMAGE`, behind a character of two bytes. -/
def imagePage : String := "<p>é<IMAGE/>"

/-- The page is read, and its paragraph and its image are located. -/
theorem locations_open_tags_imagePage :
    (parse default imagePage).2 = .ok (located imagePage) ∧ LocatesTags imagePage (located imagePage) ∧
      (located imagePage).elements.map (·.localName) = ["html", "head", "body", "p", "img"] ∧
      Source.locate imagePage (ofText imagePage) = [([0, 1, 0], ⟨0, 1, 0⟩), ([1, 0, 1, 0], ⟨0, 5, 5⟩)] := by
  have read : (parse default imagePage).2 = .ok (located imagePage) := parse_of_lenient (by decide) rfl
  exact ⟨read, (locations_open_tags imagePage).2 default _ read, by decide +kernel, by decide +kernel⟩

end Document

end Pagewalk
