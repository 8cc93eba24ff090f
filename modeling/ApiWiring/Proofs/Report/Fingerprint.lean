import ApiWiring.Report.Fingerprint

/-!
# When there is a fingerprint

Manifests and the interpreted sections of a dictionary are made of texts only, and texts always have
a canonical form. So a fingerprint is there exactly when the sections that are kept as they are have
canonical texts.
-/
namespace ApiWiring

namespace Json

/-- Items have canonical texts when each of them has one. -/
theorem canonicalItems?_isSome_iff (items : List Json) :
    (canonicalItems? items).isSome ↔ ∀ item ∈ items, (canonicalText? item).isSome := by
  induction items with
  | nil => simp [canonicalItems?]
  | cons item rest ih =>
    rw [List.forall_mem_cons, ← ih, canonicalItems?]
    cases canonicalText? item <;> cases canonicalItems? rest <;> simp

/-- Members have canonical texts when the value of each of them has one. -/
theorem canonicalMembers?_isSome_iff (members : List (String × Json)) :
    (canonicalMembers? members).isSome ↔ ∀ member ∈ members, (canonicalText? member.2).isSome := by
  induction members with
  | nil => simp [canonicalMembers?]
  | cons member rest ih =>
    obtain ⟨key, value⟩ := member
    rw [List.forall_mem_cons, ← ih, canonicalMembers?]
    cases canonicalText? value <;> cases canonicalMembers? rest <;> simp

/-- An array has a canonical text when each of its items has one. -/
theorem canonicalText?_arr_isSome_iff (items : List Json) :
    (canonicalText? (.arr items)).isSome ↔ ∀ item ∈ items, (canonicalText? item).isSome := by
  rw [← canonicalItems?_isSome_iff, canonicalText?]
  cases canonicalItems? items <;> simp

/-- An object has a canonical text when the value of each of its members has one. -/
theorem canonicalText?_obj_isSome_iff (members : List (String × Json)) :
    (canonicalText? (.obj members)).isSome ↔
      ∀ member ∈ members, (canonicalText? member.2).isSome := by
  rw [← canonicalMembers?_isSome_iff, canonicalText?]
  cases canonicalMembers? members <;> simp

/-- A text has a canonical text. -/
theorem canonicalText?_str_isSome (text : String) : (canonicalText? (.str text)).isSome := rfl

/-- A list has a canonical text when each of its values is written with one. -/
theorem canonicalText?_ofList_isSome {α : Type} {write : α → Json}
    (each : ∀ value, (canonicalText? (write value)).isSome) (values : List α) :
    (canonicalText? (ofList write values)).isSome := by
  rw [ofList, canonicalText?_arr_isSome_iff]
  intro item member
  obtain ⟨value, _, rfl⟩ := List.mem_map.mp member
  exact each value

end Json

open Json

/-- Entries in the order of their keys have a canonical text when each of their values is written
with one. -/
theorem SortedEntries.canonicalText?_toJson_isSome {α : Type} {write : α → Json}
    (each : ∀ value, (canonicalText? (write value)).isSome) (entries : SortedEntries α) :
    (canonicalText? (entries.toJson write)).isSome := by
  rw [SortedEntries.toJson, canonicalText?_obj_isSome_iff]
  intro member listed
  obtain ⟨⟨key, value⟩, _, rfl⟩ := List.mem_map.mp listed
  exact each value

/-- An entry of a manifest has a canonical text. -/
theorem ManifestEntry.canonicalText?_toJson_isSome (entry : ManifestEntry) :
    (canonicalText? entry.toJson).isSome := by
  have written : ∀ {α : Type} {name : String} {write : α → Json} {value : Option α},
      (∀ value, (canonicalText? (write value)).isSome) →
        ∀ field ∈ member name write value, (canonicalText? field.2).isSome := by
    intro α name write value each field listed
    cases value with
    | none => exact absurd listed List.not_mem_nil
    | some value =>
      rw [List.mem_singleton.mp listed]
      exact each value
  rw [ManifestEntry.toJson, canonicalText?_obj_isSome_iff]
  intro field listed
  simp only [List.mem_append] at listed
  obtain (((endpoint | method) | name) | parameter) | kind := listed
  · exact written canonicalText?_str_isSome field endpoint
  · exact written canonicalText?_str_isSome field method
  · exact written canonicalText?_str_isSome field name
  · rw [List.mem_singleton.mp parameter]
    rfl
  · exact written (fun _ => rfl) field kind

/-- A manifest has a canonical text. -/
theorem Manifest.canonicalText?_toJson_isSome (manifest : Manifest) :
    (canonicalText? manifest.toJson).isSome := by
  refine SortedEntries.canonicalText?_toJson_isSome (fun methods => ?_) _
  refine SortedEntries.canonicalText?_toJson_isSome (fun kinds => ?_) _
  refine SortedEntries.canonicalText?_toJson_isSome (fun entries => ?_) _
  exact canonicalText?_ofList_isSome ManifestEntry.canonicalText?_toJson_isSome entries

/-- An interpreted section has a canonical text when each of its values is written with one. -/
theorem Dictionary.canonicalText?_entriesToJson_isSome {α : Type} {write : α → Json}
    (each : ∀ value, (canonicalText? (write value)).isSome) (entries : Entries α) :
    (canonicalText? (entriesToJson write entries)).isSome := by
  rw [entriesToJson, canonicalText?_obj_isSome_iff]
  intro member listed
  obtain ⟨⟨key, value⟩, _, rfl⟩ := List.mem_map.mp listed
  exact each value

/-- A dictionary has a canonical text when the sections kept as they are have one each. -/
theorem Dictionary.canonicalText?_toJson_isSome_iff (dictionary : Dictionary) :
    (canonicalText? dictionary.toJson).isSome ↔
      ∀ entry ∈ dictionary.uninterpreted.toList, (canonicalText? entry.2).isSome := by
  have lists := canonicalText?_ofList_isSome canonicalText?_str_isSome
  rw [Dictionary.toJson, canonicalText?_obj_isSome_iff, List.forall_mem_append]
  refine and_iff_left ?_
  simp only [List.forall_mem_cons]
  exact ⟨canonicalText?_entriesToJson_isSome lists _,
    canonicalText?_entriesToJson_isSome canonicalText?_str_isSome _,
    canonicalText?_entriesToJson_isSome lists _, fun entry none => absurd none List.not_mem_nil⟩

/-- There is a fingerprint exactly when the sections that are kept as they are have canonical
texts. -/
theorem fingerprint_ok_iff (manifest : Manifest) (dictionary : Dictionary) :
    (∃ text, fingerprint manifest dictionary = .ok text) ↔
      ∀ entry ∈ dictionary.uninterpreted.toList, (canonicalText? entry.2).isSome := by
  have present : (fingerprintText? manifest dictionary).isSome ↔
      ∀ entry ∈ dictionary.uninterpreted.toList, (canonicalText? entry.2).isSome := by
    rw [fingerprintText?, canonical?, Option.isSome_map, canonicalText?_obj_isSome_iff,
      List.forall_mem_cons, List.forall_mem_singleton, Dictionary.canonicalText?_toJson_isSome_iff]
    exact and_iff_right manifest.canonicalText?_toJson_isSome
  rw [← present, fingerprint]
  cases fingerprintText? manifest dictionary <;> simp

end ApiWiring
