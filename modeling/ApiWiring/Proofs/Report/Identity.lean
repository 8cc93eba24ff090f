import ApiWiring.Proofs.Document.Dictionary
import ApiWiring.Proofs.Document.RoundTrip
import ApiWiring.Proofs.Json.Telling
import ApiWiring.Proofs.Keyed.Keys
import ApiWiring.Report.Fingerprint

/-!
# What the text of a fingerprint tells

The text that a fingerprint is taken of tells the manifest, and it tells the dictionary as a map: up
to the order in which its members came, the entries of its sections, and the members of objects that
are kept as they are. Lists are told in their order. The parts are told from the inside out: a way
of writing values is faithful when two values that are written alike are the same, and lists,
records and entries by key are written faithfully when what they are made of is.
-/
namespace ApiWiring

namespace Json

variable {α : Type} {write : α → Json}

/-! ## Faithful writing -/

/-- Whether values are told by what is written for them. -/
structure Faithful (write : α → Json) : Prop where
  /-- A value is written as an exact one. -/
  isExact : ∀ value, (write value).IsExact
  /-- Values that are written alike are the same. -/
  eq_of_alike : ∀ left right, Alike (write left) (write right) → left = right

/-- Values are written alike exactly when they are the same. -/
theorem Faithful.alike_iff (faithful : Faithful write) {left right : α} :
    Alike (write left) (write right) ↔ left = right := by
  refine ⟨faithful.eq_of_alike left right, ?_⟩
  rintro rfl
  exact (faithful.isExact left).alike_self

/-- Texts are written faithfully. -/
theorem faithful_str : Faithful Json.str := ⟨.str, fun _ _ => alike_str_iff.mp⟩

/-- Labels that tell their values are written faithfully. -/
theorem faithful_ofLabelled [Labelled α] [LawfulLabelled α] :
    Faithful (ofLabelled : α → Json) := by
  refine ⟨fun value => .str (label value), fun left right alike => ?_⟩
  have found := LawfulLabelled.ofLabel?_label left
  rw [alike_str_iff.mp alike, LawfulLabelled.ofLabel?_label right] at found
  exact (Option.some.inj found).symm

/-- A list of values that are written faithfully is. -/
theorem Faithful.ofList (faithful : Faithful write) : Faithful (ofList write) := by
  constructor
  · intro values
    refine .arr _ fun item listed => ?_
    obtain ⟨value, _, rfl⟩ := List.mem_map.mp listed
    exact faithful.isExact value
  · intro left right alike
    rw [Json.ofList, Json.ofList, alike_arr_iff, List.forall₂_map_left_iff,
      List.forall₂_map_right_iff] at alike
    rw [← List.forall₂_eq_eq_eq]
    exact alike.imp faithful.eq_of_alike

/-- A value that may be missing is told by what is written for it, if anything is. -/
theorem Faithful.optional (faithful : Faithful write) {left right : Option α}
    (alike : Option.Rel Alike (left.map write) (right.map write)) : left = right := by
  cases left <;> cases right <;>
    simp only [Option.map_some, Option.map_none, Option.rel_some_some, Option.not_rel_some_none,
      Option.not_rel_none_some] at alike
  · rfl
  · rw [faithful.eq_of_alike _ _ alike]

/-- A record is written as an exact value if its fields are and have distinct names. -/
theorem isExact_record {fields : List (String × Option Json)} (distinct : (fields.map (·.1)).Nodup)
    (each : ∀ field ∈ fields, ∀ json, field.2 = some json → json.IsExact) :
    (record fields).IsExact :=
  .obj _ (distinct.sublist (sublist_present fields)) (forall_mem_present each)

/-- Records that are alike have fields that are alike, under each name both or none. -/
theorem alike_record {fields others : List (String × Option Json)}
    (alike : Alike (record fields) (record others)) (name : String) :
    Option.Rel Alike ((Fields.mk (present fields)).get? name)
      ((Fields.mk (present others)).get? name) := alike_obj_iff.mp alike name

/-- Values under distinct keys are written as an exact value if they are written faithfully. -/
theorem Faithful.isExact_entries (faithful : Faithful write) {entries : List (String × α)}
    (distinct : (entries.map (·.1)).Nodup) :
    (Json.obj (entries.map fun entry => (entry.1, write entry.2))).IsExact := by
  refine .obj _ ?_ fun member listed => ?_
  · rwa [List.map_map]
  · obtain ⟨entry, _, rfl⟩ := List.mem_map.mp listed
    exact faithful.isExact entry.2

/-- Values under keys are written alike exactly when each key has the same value. -/
theorem Faithful.alike_entries_iff (faithful : Faithful write)
    {entries others : List (String × α)} :
    Alike (.obj (entries.map fun entry => (entry.1, write entry.2)))
        (.obj (others.map fun entry => (entry.1, write entry.2))) ↔
      ∀ key, entries.lookup key = others.lookup key := by
  rw [alike_obj_iff, agree_map_iff, ← agree_eq_iff]
  simp only [faithful.alike_iff]

end Json

open Json

/-! ## Manifests -/

/-- Entries in the order of their keys are written faithfully if their values are. -/
theorem SortedEntries.faithful {α : Type} {write : α → Json} (values : Faithful write) :
    Faithful (SortedEntries.toJson write) :=
  ⟨fun entries => values.isExact_entries entries.nodup_keys,
    fun _ _ alike => eq_of_get? (values.alike_entries_iff.mp alike)⟩

/-- An entry of a manifest is written faithfully. -/
theorem ManifestEntry.faithful : Faithful ManifestEntry.toJson := by
  constructor
  · intro entry
    rw [toJson_eq]
    refine isExact_record (by simp) fun field listed json given => ?_
    simp only [List.mem_cons, List.not_mem_nil, or_false] at listed
    rcases listed with rfl | rfl | rfl | rfl | rfl
    case inr.inr.inr.inl =>
      cases given
      exact .str _
    case inr.inr.inr.inr =>
      obtain ⟨kind, _, rfl⟩ := Option.map_eq_some_iff.mp given
      exact faithful_ofLabelled.isExact kind
    all_goals
      obtain ⟨text, _, rfl⟩ := Option.map_eq_some_iff.mp given
      exact .str text
  · intro left right alike
    rw [toJson_eq, toJson_eq] at alike
    have endpoint := alike_record alike "producer_endpoint"
    have method := alike_record alike "producer_method"
    have name := alike_record alike "producer_resource_name"
    have parameter := alike_record alike "consumer_param"
    have kind := alike_record alike "producer_kind"
    simp only [get?_present_cons, get?_present_nil, String.reduceEq, if_true, if_false,
      Option.or_none, Option.rel_some_some, alike_str_iff] at endpoint method name parameter kind
    cases left
    cases right
    simp only [ManifestEntry.mk.injEq]
    exact ⟨faithful_str.optional endpoint, faithful_str.optional method, faithful_str.optional name,
      parameter, faithful_ofLabelled.optional kind⟩

/-- A manifest is written faithfully. -/
theorem Manifest.faithful : Faithful Manifest.toJson := by
  have groups := SortedEntries.faithful (SortedEntries.faithful
    (SortedEntries.faithful ManifestEntry.faithful.ofList))
  refine ⟨fun manifest => groups.isExact manifest.groups, fun left right alike => ?_⟩
  exact congrArg Manifest.mk (groups.eq_of_alike left.groups right.groups alike)

/-! ## Dictionaries -/

/-- Whether entries have the same keys with the same values, in any order. -/
def Entries.SameByKey {α : Type} (left right : Entries α) : Prop :=
  ∀ key, left.toList.lookup key = right.toList.lookup key

namespace Dictionary

/-- Whether dictionaries are equal as maps: they have the same keys everywhere, with the same lists
and stems under them and with values alike where they are kept as they are. -/
structure EqualAsMaps (left right : Dictionary) : Prop where
  /-- What is kept as it is. -/
  uninterpreted : Agree Alike left.uninterpreted.toList right.uninterpreted.toList
  /-- The lists of values. -/
  custom : left.custom.SameByKey right.custom
  /-- The stems of unique names. -/
  uuidSuffix : left.uuidSuffix.SameByKey right.uuidSuffix
  /-- The lists of header values. -/
  header : left.header.SameByKey right.header

variable {left right : Dictionary}

/-- A section is written as an exact value. -/
theorem isExact_sectionToJson (dictionary : Dictionary) (from_ : DictionarySection) :
    (dictionary.sectionToJson from_).IsExact := by
  cases from_ with
  | string => exact faithful_str.ofList.isExact_entries dictionary.custom.distinct
  | uuidSuffix => exact faithful_str.isExact_entries dictionary.uuidSuffix.distinct
  | header => exact faithful_str.ofList.isExact_entries dictionary.header.distinct

/-- A dictionary that can be read, with safe integers for numbers, is written as an exact value. -/
theorem IsDecoded.isExact_toJson (decoded : left.IsDecoded)
    (safe : ∀ entry ∈ left.uninterpreted.toList, entry.2.OnlySafeIntegers) :
    left.toJson.IsExact := by
  refine .obj left.allMembers decoded.nodup_allMembers fun member listed => ?_
  rcases List.mem_append.mp listed with kept | section_
  · exact (decoded.values member kept).isExact (safe member kept)
  · obtain ⟨from_, _, rfl⟩ := List.mem_map.mp section_
    exact left.isExact_sectionToJson from_

/-- Dictionaries that can be read are written alike exactly when they are equal as maps. -/
theorem IsDecoded.alike_toJson_iff (decoded : left.IsDecoded) (other : right.IsDecoded) :
    Alike left.toJson right.toJson ↔ left.EqualAsMaps right := by
  rw [toJson_eq, toJson_eq, alike_obj_iff]
  -- An interpreted key has the section in both, any other key what was kept in both.
  constructor
  · intro agree
    have sections : ∀ from_, Alike (left.sectionToJson from_) (right.sectionToJson from_) := by
      intro from_
      have here := agree (documentKey from_)
      rwa [decoded.lookup_section, other.lookup_section, Option.rel_some_some] at here
    refine ⟨fun key => ?_, faithful_str.ofList.alike_entries_iff.mp (sections .string),
      faithful_str.alike_entries_iff.mp (sections .uuidSuffix),
      faithful_str.ofList.alike_entries_iff.mp (sections .header)⟩
    by_cases interpreted : key ∈ interpretedKeys
    · rw [decoded.lookup_of_interpreted interpreted, other.lookup_of_interpreted interpreted]
      exact .none
    · rw [← left.lookup_other interpreted, ← right.lookup_other interpreted]
      exact agree key
  · intro equal key
    by_cases interpreted : key ∈ interpretedKeys
    · obtain ⟨from_, _, rfl⟩ := List.mem_map.mp interpreted
      rw [decoded.lookup_section, other.lookup_section]
      refine .some ?_
      cases from_ with
      | string => exact faithful_str.ofList.alike_entries_iff.mpr equal.custom
      | uuidSuffix => exact faithful_str.alike_entries_iff.mpr equal.uuidSuffix
      | header => exact faithful_str.ofList.alike_entries_iff.mpr equal.header
    · rw [left.lookup_other interpreted, right.lookup_other interpreted]
      exact equal.uninterpreted key

end Dictionary

/-! ## Fingerprints -/

/-- What the text of a fingerprint is the canonical text of. -/
def fingerprintJson (manifest : Manifest) (dictionary : Dictionary) : Json :=
  .obj [("dependencies", manifest.toJson), ("dictionary", dictionary.toJson)]

/-- Manifests with dictionaries are written alike when the manifests and the dictionaries are. -/
theorem alike_fingerprintJson_iff {manifest other : Manifest} {left right : Dictionary} :
    Alike (fingerprintJson manifest left) (fingerprintJson other right) ↔
      Alike manifest.toJson other.toJson ∧ Alike left.toJson right.toJson := by
  rw [fingerprintJson, fingerprintJson, alike_obj_iff]
  constructor
  · intro agree
    have dependencies := agree "dependencies"
    have dictionary := agree "dictionary"
    simp only [List.lookup_cons, String.reduceBEq, Option.rel_some_some] at dependencies dictionary
    exact ⟨dependencies, dictionary⟩
  · rintro ⟨dependencies, dictionary⟩
    exact agree_of_forall₂ (.cons ⟨rfl, dependencies⟩ (.cons ⟨rfl, dictionary⟩ .nil))

/-- A manifest and a dictionary that can be read, with safe integers for numbers, are written as an
exact value. -/
theorem isExact_fingerprintJson (manifest : Manifest) {dictionary : Dictionary}
    (decoded : dictionary.IsDecoded)
    (safe : ∀ entry ∈ dictionary.uninterpreted.toList, entry.2.OnlySafeIntegers) :
    (fingerprintJson manifest dictionary).IsExact := by
  refine .obj _ (by simp) (List.forall_mem_cons.mpr ⟨Manifest.faithful.isExact manifest, ?_⟩)
  exact List.forall_mem_singleton.mpr (decoded.isExact_toJson safe)

/-- Where the numbers in what is kept as it is are safe integers, there is a text that the
fingerprint is taken of. It is the same exactly for the same manifest and for dictionaries that are
equal as maps, whatever order their members, their entries and the members of nested objects came
in. -/
theorem fingerprintText_eq_iff {manifest other : Manifest} {left right : Dictionary}
    (decoded : left.IsDecoded) (decodedOther : right.IsDecoded)
    (safe : ∀ entry ∈ left.uninterpreted.toList, entry.2.OnlySafeIntegers)
    (safeOther : ∀ entry ∈ right.uninterpreted.toList, entry.2.OnlySafeIntegers) :
    ∃ text otherText, fingerprintText? manifest left = some text ∧
      fingerprintText? other right = some otherText ∧
        (text = otherText ↔ manifest = other ∧ left.EqualAsMaps right) := by
  have here := isExact_fingerprintJson manifest decoded safe
  have there := isExact_fingerprintJson other decodedOther safeOther
  refine ⟨String.ofList (textOf (fingerprintJson manifest left)),
    String.ofList (textOf (fingerprintJson other right)),
    congrArg (Option.map String.ofList) here.canonicalText?_eq,
    congrArg (Option.map String.ofList) there.canonicalText?_eq, ?_⟩
  rw [String.ofList_inj, textOf_eq_iff here there, alike_fingerprintJson_iff,
    Manifest.faithful.alike_iff, decoded.alike_toJson_iff decodedOther]

/-! ## A dictionary in another order -/

/-- A dictionary with an object that is kept as it is and with lists of values. -/
def noted (members : List (String × Json)) (lists : List (String × List String)) : Dictionary :=
  ⟨.ofList [("notes", .obj members)], .ofList lists, .empty, .empty⟩

/-- These dictionaries can be read if the object is a value. -/
theorem noted_isDecoded {members : List (String × Json)} (isValue : (Json.obj members).IsValue)
    (lists : List (String × List String)) : (noted members lists).IsDecoded := by
  have apart : ∀ key ∈ Dictionary.interpretedKeys, key ∉ ["notes"] := by decide
  exact ⟨apart, List.forall_mem_singleton.mpr isValue⟩

/-- In another order there is the same text, with one list in another order there is another. -/
theorem noted_fingerprintText :
    fingerprintText? .empty (noted [("b", .int 2), ("a", .int 1)] [("k", ["2", "1"]), ("j", [])]) =
        fingerprintText? .empty
          (noted [("a", .int 1), ("b", .int 2)] [("j", []), ("k", ["2", "1"])]) ∧
      fingerprintText? .empty (noted [("b", .int 2), ("a", .int 1)] [("k", ["2", "1"])]) ≠
        fingerprintText? .empty (noted [("b", .int 2), ("a", .int 1)] [("k", ["1", "2"])]) := by
  have whole : (Json.obj [("b", .int 2), ("a", .int 1)]).IsValue :=
    .obj _ (by decide) (by simp [IsValue.int])
  have reordered : (Json.obj [("a", .int 1), ("b", .int 2)]).IsValue :=
    .obj _ (by decide) (by simp [IsValue.int])
  have safe : ∀ members, (∀ member ∈ members, member.2 = .int 1 ∨ member.2 = .int 2) →
      ∀ lists, ∀ entry ∈ (noted members lists).uninterpreted.toList,
        entry.2.OnlySafeIntegers := by
    refine fun members each lists => List.forall_mem_singleton.mpr (.obj _ fun member listed => ?_)
    rcases each member listed with same | same <;> rw [same]
    · exact .int 1 (by decide)
    · exact .int 2 (by decide)
  constructor
  · obtain ⟨text, other, here, there, same⟩ := fingerprintText_eq_iff
      (noted_isDecoded whole [("k", ["2", "1"]), ("j", [])])
      (noted_isDecoded reordered [("j", []), ("k", ["2", "1"])])
      (safe _ (by simp) _) (safe _ (by simp) _)
    have notes : Agree Alike [("b", Json.int 2), ("a", .int 1)] [("a", .int 1), ("b", .int 2)] :=
      (agree_of_forall₂ (.cons ⟨rfl, .int 2⟩ (.cons ⟨rfl, .int 1⟩ .nil))).of_perm
        (.refl _) (.swap _ _ _) (by decide) (by decide)
    have equal : (noted [("b", .int 2), ("a", .int 1)] [("k", ["2", "1"]), ("j", [])]).EqualAsMaps
        (noted [("a", .int 1), ("b", .int 2)] [("j", []), ("k", ["2", "1"])]) :=
      ⟨agree_of_forall₂ (.cons ⟨rfl, .obj notes⟩ .nil),
        lookup_of_perm (.swap _ _ _) (by decide), fun _ => rfl, fun _ => rfl⟩
    rw [here, there, same.mpr ⟨rfl, equal⟩]
  · obtain ⟨text, other, here, there, same⟩ := fingerprintText_eq_iff
      (noted_isDecoded whole [("k", ["2", "1"])]) (noted_isDecoded whole [("k", ["1", "2"])])
      (safe _ (by simp) _) (safe _ (by simp) _)
    rw [here, there]
    intro equal
    have lists := (same.mp (Option.some.inj equal)).2.custom "k"
    exact absurd lists (by decide)

end ApiWiring
