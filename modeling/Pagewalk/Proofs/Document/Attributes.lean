import Mathlib.Data.List.Find
import Pagewalk.Document.Element

/-!
# Attributes and their names

The attributes of an element are listed by their local names, but an attribute is looked up by a name without a
namespace. So a lookup finds only what is listed, though not all of it: an attribute that was moved into a namespace is
listed under a name by which it is not found, and where it comes before one that is found it is listed first.
-/

namespace Pagewalk.Element

open Markup

variable {e : Element} {name : String}

/-! ### The list -/

/-- The first attribute that is listed under a name. -/
def named? (e : Element) (name : String) : Option Attribute := e.data.attributes.find? fun a => a.name.name == name

/-- The value of the first entry of a name in the list of attributes. -/
def listed? (e : Element) (name : String) : Option String := (e.attributes.find? fun entry => entry.1 == name).map (·.2)

theorem listed?_eq (e : Element) (name : String) : e.listed? name = (e.named? name).map (·.value) := by
  rw [listed?, attributes, List.find?_map, Option.map_map]
  rfl

theorem mem_names_iff : name ∈ e.attributes.map (·.1) ↔ ∃ a ∈ e.data.attributes, a.name.name = name := by
  rw [attributes, List.map_map, List.mem_map]
  rfl

theorem mem_names_iff_named? : name ∈ e.attributes.map (·.1) ↔ (e.named? name).isSome := by
  rw [mem_names_iff, named?, List.find?_isSome]
  exact exists_congr fun a => and_congr_right fun _ => beq_iff_eq.symm

theorem mem_names_iff_listed? : name ∈ e.attributes.map (·.1) ↔ (e.listed? name).isSome := by
  rw [mem_names_iff_named?, listed?_eq, Option.isSome_map]

/-! ### Looking up -/

/-- The first attribute that has a name and no namespace. -/
def plain? (e : Element) (name : String) : Option Attribute := e.data.attributes.find? fun a => a.name == .plain name

/-- The attribute at which a script arrives by a name: one of the name, or one of the name in small letters. -/
def sought? (e : Element) (name : String) : Option Attribute := (e.plain? name).or (e.plain? (Text.lower name))

theorem attribute?_eq (e : Element) (name : String) : e.attribute? name = (e.plain? name).map (·.value) := rfl

theorem attribute?_or_lower (e : Element) (name : String) :
    (e.attribute? name).or (e.attribute? (Text.lower name)) = (e.sought? name).map (·.value) := by
  rw [sought?, attribute?_eq, attribute?_eq]
  cases e.plain? name <;> rfl

/-- A lookup by a name finds an attribute that has it and no namespace. -/
theorem hasAttribute_iff : e.hasAttribute name = true ↔ ∃ a ∈ e.data.attributes, a.name = .plain name := by
  rw [hasAttribute, attribute?_eq, Option.isSome_map, plain?, List.find?_isSome]
  exact exists_congr fun a => and_congr_right fun _ => beq_iff_eq

/-- What is found by a name is listed under it. -/
theorem mem_names_of_plain? {a : Attribute} (found : e.plain? name = some a) : name ∈ e.attributes.map (·.1) := by
  have own := List.find?_some found
  rw [beq_iff_eq] at own
  exact mem_names_iff.mpr ⟨a, List.mem_of_find?_eq_some found, congrArg AttributeName.name own⟩

/-! ### Where the list and a lookup agree -/

/-- What was found by a name speaks for the list: if something is listed under the name, then something was found, and
it has the value that is listed first. -/
def SpeaksFor (e : Element) (name : String) (found : Option Attribute) : Prop :=
  ∀ a, e.named? name = some a → ∃ b, found = some b ∧ b.value = a.value

/-- Under a name that is listed, what was found has the value of the first entry exactly if it speaks for the list. -/
theorem speaksFor_iff {found : Option Attribute} (listed : name ∈ e.attributes.map (·.1)) :
    e.SpeaksFor name found ↔ found.map (·.value) = e.listed? name := by
  obtain ⟨a, first⟩ := Option.isSome_iff_exists.mp (mem_names_iff_named?.mp listed)
  rw [listed?_eq, first, Option.map_some, Option.map_eq_some_iff]
  refine ⟨fun all => all a first, fun same b own => ?_⟩
  obtain rfl := Option.some.inj (first.symm.trans own)
  exact same

/-- The list and the lookup agree on a name exactly if what is found by it speaks for the list. -/
theorem agrees_iff : ((e.hasAttribute name = true ↔ name ∈ e.attributes.map (·.1)) ∧
      (e.hasAttribute name = true → e.attribute? name = e.listed? name)) ↔ e.SpeaksFor name (e.plain? name) := by
  have has : e.hasAttribute name = true ↔ (e.plain? name).isSome := by
    rw [hasAttribute, attribute?_eq, Option.isSome_map]
  constructor
  · rintro ⟨both, same⟩ a first
    have listed : name ∈ e.attributes.map (·.1) := mem_names_iff_named?.mpr (first ▸ rfl)
    exact (speaksFor_iff listed).mpr (same (both.mpr listed)) a first
  · intro speaks
    have found (listed : name ∈ e.attributes.map (·.1)) : (e.plain? name).isSome := by
      obtain ⟨a, first⟩ := Option.isSome_iff_exists.mp (mem_names_iff_named?.mp listed)
      obtain ⟨b, eq, -⟩ := speaks a first
      exact eq ▸ rfl
    have listed (h : e.hasAttribute name = true) : name ∈ e.attributes.map (·.1) := by
      obtain ⟨a, eq⟩ := Option.isSome_iff_exists.mp (has.mp h)
      exact mem_names_of_plain? eq
    exact ⟨⟨listed, fun h => has.mpr (found h)⟩, fun h => (speaksFor_iff (listed h)).mp speaks⟩

/-- Under a name that no attribute in a namespace has, what is found is what is listed first. -/
theorem plain?_eq_named? (none_moved : ∀ a ∈ e.data.attributes, a.name.name = name → a.name = .plain name) :
    e.plain? name = e.named? name := by
  refine List.find?_congr fun a ha => ?_
  rw [Bool.eq_iff_iff, beq_iff_eq, beq_iff_eq]
  exact ⟨congrArg AttributeName.name, none_moved a ha⟩

/-- A name that no attribute in a namespace has is found by itself, in small letters or not, and speaks for the list. -/
theorem speaksFor_of_plain (none_moved : ∀ a ∈ e.data.attributes, a.name.name = name → a.name = .plain name) :
    e.SpeaksFor name (e.plain? name) ∧ e.SpeaksFor name (e.sought? name) := by
  have same := plain?_eq_named? none_moved
  refine ⟨fun a first => ⟨a, same.trans first, rfl⟩, fun a first => ⟨a, ?_, rfl⟩⟩
  rw [sought?, same.trans first, Option.some_or]

end Pagewalk.Element
