import ApiWiring.Document.Dictionary
import ApiWiring.Proofs.Document.Records
import ApiWiring.Proofs.Json.Values

/-!
# Dictionaries written back

A dictionary that was read is written as what was read, in one order: first the members that are no
interpreted section, as they came, then the three sections with their entries as they came, an empty
one for each that was missing. A section is read member by member and so is the value that it is as
a whole; where the two agree, reading a section and writing it gives this value (`WritesBack`). What
was read has no interpreted key among the others (`IsDecoded`), so it reads back as it was.
-/
namespace ApiWiring

namespace Json

variable {α : Type} {write : α → Json} {read : Json → Option α}

/-! ## Writing back what was read -/

/-- Whether what is read is written as the value that was there. -/
def WritesBack (write : α → Json) (read : Json → Option α) : Prop :=
  ∀ json value, read json = some value → json.value? = some (write value)

/-- A text is written back. -/
theorem writesBack_str : WritesBack Json.str string? := by
  intro json text found
  cases json with
  | str => exact congrArg (Option.map Json.str) found
  | _ => cases found

/-- A list is written back when its items are. -/
theorem WritesBack.ofList (items : WritesBack write read) :
    WritesBack (ofList write) (list? read) := by
  intro json values found
  cases json with
  | arr list =>
    replace found : list.mapM read = some values := found
    have whole : items? list = some (values.map write) := by
      induction list generalizing values with
      | nil =>
        cases found
        rfl
      | cons item rest ih =>
        rw [List.mapM_cons] at found
        obtain ⟨value, here, later⟩ := Option.bind_eq_some_iff.mp found
        obtain ⟨others, rested, built⟩ := Option.bind_eq_some_iff.mp later
        cases built
        rw [items?, items item value here, ih others rested]
        rfl
    rw [value?, whole]
    rfl
  | _ => cases found

/-- A member is set before or after all values are changed. -/
theorem setMember_map {β : Type} (change : α → β) (members : List (String × α)) (key : String)
    (value : α) :
    setMember (members.map fun member => (member.1, change member.2)) key (change value) =
      (setMember members key value).map fun member => (member.1, change member.2) := by
  induction members with
  | nil => rfl
  | cons first rest ih =>
    rw [List.map_cons, setMember, setMember, ih]
    split <;> rfl

/-- Members are made distinct before or after all values are changed. -/
theorem distinctMembers_map {β : Type} (change : α → β) (members : List (String × α)) :
    distinctMembers (members.map fun member => (member.1, change member.2)) =
      (distinctMembers members).map fun member => (member.1, change member.2) := by
  have general : ∀ done : List (String × α),
      members.foldl (fun done member => setMember done member.1 (change member.2))
          (done.map fun member => (member.1, change member.2)) =
        (members.foldl (fun done member => setMember done member.1 member.2) done).map
          fun member => (member.1, change member.2) := by
    induction members with
    | nil => exact fun _ => rfl
    | cons member rest ih =>
      intro done
      rw [List.foldl_cons, List.foldl_cons, setMember_map, ih]
  rw [distinctMembers, List.foldl_map]
  exact general []

/-- Values under keys are written back when they are one by one. -/
theorem WritesBack.entries (values : WritesBack write read) {json : Json}
    {entries : List (String × α)} (found : entries? read json = some entries) :
    (entries.map (·.1)).Nodup ∧
      json.value? = some (.obj (entries.map fun entry => (entry.1, write entry.2))) := by
  cases json with
  | obj members =>
    obtain ⟨listed, each, built⟩ := Option.bind_eq_some_iff.mp found
    cases built
    have whole : members? members = some (listed.map fun entry => (entry.1, write entry.2)) := by
      clear found
      induction members generalizing listed with
      | nil =>
        cases each
        rfl
      | cons member rest ih =>
        obtain ⟨key, json⟩ := member
        rw [List.mapM_cons] at each
        obtain ⟨entry, here, later⟩ := Option.bind_eq_some_iff.mp each
        obtain ⟨value, present, rfl⟩ := Option.map_eq_some_iff.mp here
        obtain ⟨others, rested, built⟩ := Option.bind_eq_some_iff.mp later
        cases built
        rw [members?, values json value present, ih others rested]
        rfl
    refine ⟨nodup_distinctMembers listed, ?_⟩
    rw [value?, whole, Option.map_some, distinctMembers_map]
  | _ => cases found

end Json

open Json

namespace Dictionary

/-! ## Sections -/

/-- Entries of a section read back when their values do. -/
theorem readsBack_entries {α : Type} {write : α → Json} {read : Json → Option α}
    (values : ReadsBack write read) : ReadsBack (entriesToJson write) (entriesOfJson? read) := by
  intro entries
  have listed := entries?_of_nodup values entries.distinct
  show (entries? read (.obj (entries.toList.map fun entry => (entry.1, write entry.2)))).map
    .ofList = some entries
  rw [listed, Option.map_some, Entries.ofList_toList]

/-- Entries of a section are written back when their values are. -/
theorem writesBack_entries {α : Type} {write : α → Json} {read : Json → Option α}
    (values : WritesBack write read) : WritesBack (entriesToJson write) (entriesOfJson? read) := by
  intro json entries found
  obtain ⟨listed, each, rfl⟩ := Option.map_eq_some_iff.mp found
  obtain ⟨distinct, whole⟩ := values.entries each
  rw [whole, entriesToJson, Entries.toList_ofList distinct]

variable {json : Json} {dictionary : Dictionary} {members : List (String × Json)}

/-- The JSON form of a section. -/
def sectionToJson (dictionary : Dictionary) : DictionarySection → Json
  | .string => entriesToJson (ofList .str) dictionary.custom
  | .uuidSuffix => entriesToJson .str dictionary.uuidSuffix
  | .header => entriesToJson (ofList .str) dictionary.header

/-- Whether a section of a dictionary is what is read from what is given for it. -/
def ReadsSection (dictionary : Dictionary) (given : Option Json) : DictionarySection → Prop
  | .string =>
    given.elim (some .empty) (entriesOfJson? (list? string?)) = some dictionary.custom
  | .uuidSuffix => given.elim (some .empty) (entriesOfJson? string?) = some dictionary.uuidSuffix
  | .header =>
    given.elim (some .empty) (entriesOfJson? (list? string?)) = some dictionary.header

/-- A section reads back. -/
theorem readsSection_toJson (dictionary : Dictionary) (from_ : DictionarySection) :
    dictionary.ReadsSection (some (dictionary.sectionToJson from_)) from_ := by
  have texts : ReadsBack (ofList Json.str) (list? string?) := ReadsBack.ofList string?_str
  cases from_ with
  | string => exact readsBack_entries texts _
  | uuidSuffix => exact readsBack_entries string?_str _
  | header => exact readsBack_entries texts _

/-- A section is written back, an empty one where none is given. -/
theorem sectionToJson_of_reads {given : Option Json} {from_ : DictionarySection}
    (reads : dictionary.ReadsSection given from_) :
    (∀ json, given = some json → json.value?.isSome) ∧
      (given.bind value?).getD (.obj []) = dictionary.sectionToJson from_ := by
  have each : ∀ {α : Type} {write : α → Json} {read : Json → Option α} {entries : Entries α},
      WritesBack write read → given.elim (some .empty) (entriesOfJson? read) = some entries →
        (∀ json, given = some json → json.value?.isSome) ∧
          (given.bind value?).getD (.obj []) = entriesToJson write entries := by
    intro α write read entries values found
    cases given with
    | none =>
      cases found
      exact ⟨nofun, rfl⟩
    | some json =>
      have whole := writesBack_entries values json entries found
      rw [Option.bind_some, whole]
      refine ⟨fun other same => ?_, rfl⟩
      cases same
      rw [whole]
      rfl
  have texts : WritesBack (ofList Json.str) (list? string?) := writesBack_str.ofList
  cases from_ with
  | string => exact each texts reads
  | uuidSuffix => exact each writesBack_str reads
  | header => exact each texts reads

/-! ## Dictionaries -/

/-- Whether a key is that of an interpreted section. -/
def isInterpreted (key : String) : Bool := interpretedKeys.contains key

/-- An interpreted key is that of a section. -/
theorem isInterpreted_iff {key : String} : isInterpreted key = true ↔ key ∈ interpretedKeys :=
  List.contains_iff_mem

/-- The members of the JSON form of a dictionary: the other members before the three sections. -/
def allMembers (dictionary : Dictionary) : List (String × Json) :=
  dictionary.uninterpreted.toList ++
    (Labelled.all : List DictionarySection).map fun from_ =>
      (documentKey from_, dictionary.sectionToJson from_)

/-- A dictionary is written as the object of its members. -/
theorem toJson_eq (dictionary : Dictionary) :
    dictionary.toJson = .obj dictionary.allMembers := rfl

/-- What a dictionary is read from: the members of an object in which no interpreted key occurs
twice, the sections under their keys and the others as values. -/
structure ReadFrom (dictionary : Dictionary) (members : List (String × Json)) : Prop where
  /-- No interpreted key occurs twice. -/
  once : ∀ key ∈ interpretedKeys, members.countP (·.1 == key) ≤ 1
  /-- The other members are kept as values. -/
  others : ∃ values, members? (members.filter fun member => !isInterpreted member.1) =
    some values ∧ dictionary.uninterpreted = .ofList (distinctMembers values)
  /-- The sections are read. -/
  sections : ∀ from_, dictionary.ReadsSection (members.lookup (documentKey from_)) from_

/-- A dictionary is read from an object exactly when it is read from its members. -/
theorem ofJson?_eq_some_iff : ofJson? json = some dictionary ↔
    ∃ members, json = .obj members ∧ dictionary.ReadFrom members := by
  constructor
  · intro found
    obtain ⟨fields, checked, found⟩ := Option.bind_eq_some_iff.mp found
    obtain ⟨kept, others, found⟩ := Option.bind_eq_some_iff.mp found
    obtain ⟨custom, readCustom, found⟩ := Option.bind_eq_some_iff.mp found
    obtain ⟨uuidSuffix, readUuidSuffix, found⟩ := Option.bind_eq_some_iff.mp found
    obtain ⟨header, readHeader, built⟩ := Option.bind_eq_some_iff.mp found
    cases built
    cases json with
    | obj members =>
      obtain ⟨values, read, rfl⟩ := Option.map_eq_some_iff.mp others
      simp only [objectFields?, Option.ite_none_right_eq_some] at checked
      obtain ⟨once, built⟩ := checked
      cases built
      rw [withDefault_eq] at readCustom readUuidSuffix readHeader
      refine ⟨members, rfl, fun key interpreted => ?_, ⟨values, read, rfl⟩, fun from_ => ?_⟩
      · exact of_decide_eq_true (List.all_eq_true.mp once key interpreted)
      · cases from_ with
        | string => exact readCustom
        | uuidSuffix => exact readUuidSuffix
        | header => exact readHeader
    | _ => cases checked
  · rintro ⟨members, rfl, once, ⟨values, read, kept⟩, sections⟩
    have checked : objectFields? interpretedKeys (.obj members) = some ⟨members⟩ :=
      if_pos (List.all_eq_true.mpr fun key interpreted => decide_eq_true (once key interpreted))
    have others : uninterpretedOf? (.obj members) = some dictionary.uninterpreted := by
      show (members? (members.filter fun member => !isInterpreted member.1)).map _ = _
      rw [read, kept]
      rfl
    have custom : (members.lookup _).elim _ _ = _ := sections .string
    have uuidSuffix : (members.lookup _).elim _ _ = _ := sections .uuidSuffix
    have header : (members.lookup _).elim _ _ = _ := sections .header
    simp only [ofJson?, checked, others, withDefault_eq, Fields.get?, Option.bind_eq_bind,
      Option.bind_some, custom, uuidSuffix, header]

/-- Whether a dictionary is one that can be read: no interpreted key is among the others, and what
is kept as it is are values as a whole. -/
structure IsDecoded (dictionary : Dictionary) : Prop where
  /-- Interpreted keys are no others. -/
  apart : ∀ key ∈ interpretedKeys, key ∉ dictionary.uninterpreted.keys
  /-- What is kept is readable. -/
  values : ∀ entry ∈ dictionary.uninterpreted.toList, entry.2.IsValue

/-- What was read is a dictionary that can be read. -/
theorem ReadFrom.isDecoded (read : dictionary.ReadFrom members) : dictionary.IsDecoded := by
  obtain ⟨values, others, kept⟩ := read.others
  have listed : dictionary.uninterpreted.toList = distinctMembers values := by
    rw [kept, Entries.toList_ofList (nodup_distinctMembers values)]
  constructor
  · intro key interpreted member
    obtain ⟨entry, present, rfl⟩ := List.mem_map.mp member
    rw [listed] at present
    have among : entry.1 ∈ values.map (·.1) :=
      List.mem_map_of_mem (mem_of_mem_distinctMembers present)
    rw [keys_of_members? others] at among
    obtain ⟨source, filtered, same⟩ := List.mem_map.mp among
    have outside := (List.mem_filter.mp filtered).2
    rw [same, isInterpreted_iff.mpr interpreted] at outside
    cases outside
  · rw [listed]
    exact fun entry present =>
      isValue_of_members? others entry (mem_of_mem_distinctMembers present)

/-- The key of a section is interpreted. -/
theorem documentKey_mem (from_ : DictionarySection) : documentKey from_ ∈ interpretedKeys := by
  cases from_ <;> decide

/-- The members of the JSON form of a dictionary that can be read have distinct keys. -/
theorem IsDecoded.nodup_allMembers (decoded : dictionary.IsDecoded) :
    (dictionary.allMembers.map (·.1)).Nodup := by
  have keys : ((Labelled.all : List DictionarySection).map fun from_ =>
      (documentKey from_, dictionary.sectionToJson from_)).map (·.1) = interpretedKeys := rfl
  rw [allMembers, List.map_append, keys]
  refine List.nodup_append.mpr ⟨dictionary.uninterpreted.distinct, by decide, ?_⟩
  rintro key member other interpreted rfl
  exact decoded.apart key interpreted member

/-- A dictionary that can be read has no other member under an interpreted key. -/
theorem IsDecoded.lookup_of_interpreted (decoded : dictionary.IsDecoded) {key : String}
    (interpreted : key ∈ interpretedKeys) : dictionary.uninterpreted.toList.lookup key = none := by
  refine List.lookup_eq_none_iff.mpr fun member listed => ?_
  rw [bne_iff_ne]
  rintro rfl
  exact decoded.apart _ interpreted (List.mem_map_of_mem listed)

/-- What the JSON form of a dictionary has under the key of a section is the section. -/
theorem IsDecoded.lookup_section (decoded : dictionary.IsDecoded) (from_ : DictionarySection) :
    dictionary.allMembers.lookup (documentKey from_) = some (dictionary.sectionToJson from_) := by
  rw [allMembers, List.lookup_append, decoded.lookup_of_interpreted (documentKey_mem from_),
    Option.none_or]
  cases from_ <;> simp [Labelled.all, documentKey, List.lookup_cons]

/-- What the JSON form of a dictionary has under any other key is kept there as it is. -/
theorem lookup_other (dictionary : Dictionary) {key : String} (other : key ∉ interpretedKeys) :
    dictionary.allMembers.lookup key = dictionary.uninterpreted.toList.lookup key := by
  have missing : ((Labelled.all : List DictionarySection).map fun from_ =>
      (documentKey from_, dictionary.sectionToJson from_)).lookup key = none := by
    refine List.lookup_eq_none_iff.mpr fun member listed => ?_
    obtain ⟨from_, _, rfl⟩ := List.mem_map.mp listed
    rw [bne_iff_ne]
    rintro rfl
    exact other (documentKey_mem from_)
  rw [allMembers, List.lookup_append, missing, Option.or_none]

/-- A dictionary that can be read is read back from its JSON form. -/
theorem IsDecoded.ofJson?_toJson (decoded : dictionary.IsDecoded) :
    ofJson? dictionary.toJson = some dictionary := by
  refine ofJson?_eq_some_iff.mpr ⟨dictionary.allMembers, rfl, ?_, ?_, ?_⟩
  · exact fun key _ => once_of_nodup decoded.nodup_allMembers key
  · refine ⟨dictionary.uninterpreted.toList, ?_, ?_⟩
    · have plain : dictionary.uninterpreted.toList.filter
          (fun member => !isInterpreted member.1) = dictionary.uninterpreted.toList := by
        refine List.filter_eq_self.mpr fun member listed => ?_
        rw [Bool.not_eq_true', ← Bool.not_eq_true, isInterpreted_iff]
        exact fun interpreted => decoded.apart _ interpreted (List.mem_map_of_mem listed)
      have none : ((Labelled.all : List DictionarySection).map fun from_ =>
          (documentKey from_, dictionary.sectionToJson from_)).filter
            (fun member => !isInterpreted member.1) = [] := by
        refine List.filter_eq_nil_iff.mpr fun member listed => ?_
        obtain ⟨from_, _, rfl⟩ := List.mem_map.mp listed
        rw [isInterpreted_iff.mpr (documentKey_mem from_)]
        exact Bool.false_ne_true
      rw [allMembers, List.filter_append, plain, none, List.append_nil]
      exact members?_of_each fun member listed => (decoded.values member listed).value?_eq
    · rw [distinctMembers_of_nodup dictionary.uninterpreted.distinct, Entries.ofList_toList]
  · intro from_
    rw [decoded.lookup_section]
    exact readsSection_toJson dictionary from_

/-- All members that a dictionary was read from are values. -/
theorem ReadFrom.readable (read : dictionary.ReadFrom members) :
    ∃ values, members? members = some values := by
  refine Option.isSome_iff_exists.mp ((members?_isSome_iff members).mpr fun member listed => ?_)
  cases interpreted : isInterpreted member.1 with
  | true =>
    have among := isInterpreted_iff.mp interpreted
    obtain ⟨from_, _, named⟩ := List.mem_map.mp among
    have given := lookup_of_once (read.once _ among) listed
    rw [← named] at given
    exact (sectionToJson_of_reads (read.sections from_)).1 _ given
  | false =>
    obtain ⟨values, others, _⟩ := read.others
    have each := (members?_isSome_iff _).mp (Option.isSome_of_eq_some others)
    exact each member (List.mem_filter.mpr ⟨listed, by rw [interpreted]; rfl⟩)

/-- A dictionary that was read is written with the other members as they came, and then every
section, an empty one where none was given. -/
theorem ReadFrom.toJson_eq (read : dictionary.ReadFrom members) :
    ∃ values, (Json.obj members).value? = some (.obj values) ∧
      dictionary.toJson = .obj (values.filter (fun member => !isInterpreted member.1) ++
        interpretedKeys.map fun key => (key, (values.lookup key).getD (.obj []))) := by
  obtain ⟨values, readable⟩ := read.readable
  refine ⟨distinctMembers values, by rw [value?, readable, Option.map_some], ?_⟩
  have others : (distinctMembers values).filter (fun member => !isInterpreted member.1) =
      dictionary.uninterpreted.toList := by
    obtain ⟨kept, filtered, built⟩ := read.others
    rw [members?_filter (fun key => !isInterpreted key) readable, Option.some.injEq] at filtered
    rw [filter_distinctMembers fun key => !isInterpreted key, filtered, built,
      Entries.toList_ofList (nodup_distinctMembers kept)]
  have sections : ∀ from_ : DictionarySection,
      ((distinctMembers values).lookup (documentKey from_)).getD (.obj []) =
        dictionary.sectionToJson from_ := by
    intro from_
    have once : values.countP (·.1 == documentKey from_) ≤ 1 := by
      have counted := read.once _ (documentKey_mem from_)
      rwa [countP_key, ← keys_of_members? readable, ← countP_key] at counted
    rw [lookup_distinctMembers once, lookup_of_members? readable]
    exact (sectionToJson_of_reads (read.sections from_)).2
  rw [Dictionary.toJson_eq, allMembers, others, interpretedKeys, List.map_map]
  refine congrArg Json.obj (congrArg _ (List.map_congr_left fun from_ _ => ?_))
  show _ = (documentKey from_, ((distinctMembers values).lookup (documentKey from_)).getD (.obj []))
  rw [sections]

/-- A dictionary that was read is written as the object that it was read from: first the members
that are no interpreted section, in their order, then all three sections with their entries in their
order, an empty one where none was given. No interpreted key is among the other members, and the
dictionary reads back as it was. -/
theorem dictionary_round_trip (found : ofJson? json = some dictionary) :
    ∃ members, json.value? = some (.obj members) ∧
      dictionary.toJson = .obj (members.filter (fun member => !isInterpreted member.1) ++
        interpretedKeys.map fun key => (key, (members.lookup key).getD (.obj []))) ∧
      (∀ key ∈ interpretedKeys, key ∉ dictionary.uninterpreted.keys) ∧
        ofJson? dictionary.toJson = some dictionary := by
  obtain ⟨raw, rfl, read⟩ := ofJson?_eq_some_iff.mp found
  obtain ⟨members, whole, written⟩ := read.toJson_eq
  exact ⟨members, whole, written, read.isDecoded.apart, read.isDecoded.ofJson?_toJson⟩

/-! ## An object in another order -/

/-- An object with unknown members around two of the sections. -/
def mixedJson : Json := .obj [
  ("notes", .obj [("b", .arr [.int 1, .null]), ("a", .bool true)]),
  ("restler_custom_payload_header", .obj [("x-id", .arr [.str "7"])]),
  ("authors", .str "nobody"),
  ("restler_custom_payload", .obj [("k", .arr [.str "2", .str "1"]), ("a", .arr [])])]

/-- `mixedJson` is read, and written with the unknown members first and all sections. -/
theorem mixedJson_round_trip :
    ∃ dictionary, ofJson? mixedJson = some dictionary ∧
      dictionary.toJson = .obj [
        ("notes", .obj [("b", .arr [.int 1, .null]), ("a", .bool true)]),
        ("authors", .str "nobody"),
        ("restler_custom_payload", .obj [("k", .arr [.str "2", .str "1"]), ("a", .arr [])]),
        ("restler_custom_payload_uuid4_suffix", .obj []),
        ("restler_custom_payload_header", .obj [("x-id", .arr [.str "7"])])] ∧
      ofJson? dictionary.toJson = some dictionary := by
  have readable : (ofJson? mixedJson).isSome = true := by decide +kernel
  obtain ⟨dictionary, found⟩ := Option.isSome_iff_exists.mp readable
  obtain ⟨members, whole, written, _, back⟩ := dictionary_round_trip found
  refine ⟨dictionary, found, ?_, back⟩
  have same : mixedJson.value? = some mixedJson := rfl
  rw [same] at whole
  cases whole
  exact written

end Dictionary

end ApiWiring
