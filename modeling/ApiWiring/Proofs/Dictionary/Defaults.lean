import ApiWiring.Proofs.Dictionary.Growth

/-!
# Entries added by default

An entry that is registered has the default value of its own key, and an entry that is merged is
either refused or taken as it is. So a dictionary that grew by registering, also where the entries
came in from another dictionary that itself grew by registering, is the one it was with default
entries at the ends of its sections (`AppendsDefaults`), under keys that no other key equals
ignoring case.
-/
namespace ApiWiring

open Text

namespace Entries

variable {α : Type} {value : String → α} {first middle last : Entries α} {front back : List String}

/-- Whether one collection is another one with the default entries of new keys at its end, and no
other key equals a new one ignoring case. -/
structure AppendsDefaults (later earlier : Entries α) (value : String → α)
    (newKeys : List String) : Prop where
  /-- The entries are those there were and those of the new keys. -/
  toList : later.toList = earlier.toList ++ newKeys.map fun key => (key, value key)
  /-- A new key differs from every other one ignoring case. -/
  apart : ∀ key ∈ newKeys, ∀ other ∈ later.keys, EqualIgnoringCase other key → other = key

/-- The keys are those there were and the new ones. -/
theorem AppendsDefaults.keys_eq (grown : last.AppendsDefaults first value back) :
    last.keys = first.keys ++ back := by
  simp [keys, grown.toList, Function.comp_def]

/-- The new keys are counted. -/
theorem AppendsDefaults.size_eq (grown : last.AppendsDefaults first value back) :
    last.size = first.size + back.length := by
  simp [size, grown.toList]

/-- A collection is itself without new keys. -/
theorem AppendsDefaults.refl (entries : Entries α) : entries.AppendsDefaults entries value [] where
  toList := by simp
  apart := fun _ member => absurd member List.not_mem_nil

/-- New keys come after new keys. -/
theorem AppendsDefaults.trans (later : last.AppendsDefaults middle value back)
    (earlier : middle.AppendsDefaults first value front) :
    last.AppendsDefaults first value (front ++ back) where
  toList := by simp [later.toList, earlier.toList]
  apart := by
    intro key member other present alike
    rcases List.mem_append.mp member with inFront | inBack
    · have known : key ∈ middle.keys := by
        rw [earlier.keys_eq]
        exact List.mem_append_right _ inFront
      rw [later.keys_eq] at present
      rcases List.mem_append.mp present with old | new
      · exact earlier.apart key inFront other old alike
      · -- The later key is the one that was to differ from all others.
        have kept : key ∈ last.keys := by
          rw [later.keys_eq]
          exact List.mem_append_left _ known
        exact (later.apart other new key kept alike.symm).symm
    · exact later.apart key inBack other present alike

/-- A collection with default entries at its end has grown. -/
theorem AppendsDefaults.extends (grown : last.AppendsDefaults first value back) :
    last.Extends first := by
  have distinct : (first.keys ++ back).Nodup := by
    rw [← grown.keys_eq]
    exact last.distinct
  obtain ⟨_, distinctNew, separate⟩ := List.nodup_append.mp distinct
  have present : ∀ key ∈ first.keys ++ back, key ∈ last.keys := by
    rw [grown.keys_eq]
    exact fun key member => member
  refine ⟨_, grown.toList, ?_, ?_⟩
  · rintro _ member
    obtain ⟨key, new, rfl⟩ := List.mem_map.mp member
    refine not_holds_iff.mpr fun held old alike => ?_
    have same := grown.apart key new held (present held (List.mem_append_left _ old)) alike
    exact separate held old key new same
  · refine List.pairwise_map.mpr (distinctNew.imp_of_mem ?_)
    intro left right inLeft inRight differ alike
    exact differ (grown.apart right inRight left (present left (List.mem_append_right _ inLeft))
      alike)

/-- An entry to be added by default is a new key unless its key is held. -/
theorem appendsDefaults_insertMissing (entries : Entries α) (value : String → α) (key : String) :
    (entries.insertMissing key (value key)).1.AppendsDefaults entries value
      (if entries.holds key then [] else [key]) := by
  cases held : entries.holds key with
  | true => exact ⟨by simp [toList_insertMissing, held], by simp⟩
  | false =>
    refine ⟨by simp [toList_insertMissing, held], ?_⟩
    intro new member other present alike
    obtain rfl : new = key := by simpa using member
    rcases mem_keys_insertMissing.mp present with old | ⟨rfl, _⟩
    · exact absurd alike (not_holds_iff.mp held other old)
    · rfl

/-- Merging entries whose keys are held or whose values are the default ones of their keys appends
default entries. -/
theorem appendsDefaults_mergeMissing {entries : Entries α} {others : List (String × α)}
    (each : ∀ entry ∈ others, entries.holds entry.1 = true ∨ entry.2 = value entry.1) :
    ∃ newKeys, (entries.mergeMissing others).1.AppendsDefaults entries value newKeys := by
  induction others generalizing entries with
  | nil => exact ⟨[], .refl entries⟩
  | cons entry rest ih =>
    rw [fst_mergeMissing_cons]
    obtain ⟨here, later⟩ := List.forall_mem_cons.mp each
    have grown := extends_insertMissing entries entry.1 entry.2
    obtain ⟨newKeys, appended⟩ :=
      ih fun other member => (later other member).imp grown.holds id
    rcases here with held | default
    · rw [insertMissing_of_holds held] at appended ⊢
      exact ⟨newKeys, appended⟩
    · rw [default] at appended ⊢
      exact ⟨_, appended.trans (appendsDefaults_insertMissing entries value entry.1)⟩

/-- Merging what grew by default entries out of entries that are all held appends default entries.
-/
theorem appendsDefaults_mergeMissing_of_grown {entries : Entries α}
    (since : entries.Extends first) (grown : last.AppendsDefaults first value back) :
    ∃ newKeys, (entries.mergeMissing last.toList).1.AppendsDefaults entries value newKeys := by
  refine appendsDefaults_mergeMissing fun entry member => ?_
  rw [grown.toList] at member
  rcases List.mem_append.mp member with old | new
  · exact .inl (since.holds (holds_of_mem (List.mem_map_of_mem old)))
  · obtain ⟨key, _, rfl⟩ := List.mem_map.mp new
    exact .inr rfl

end Entries

namespace Dictionary

/-- Whether one dictionary is another one with default entries of new keys at the ends of its
sections: a key stands for itself or for the list of itself alone. -/
structure AppendsDefaults (later earlier : Dictionary)
    (newKeys : DictionarySection → List String) : Prop where
  /-- Sections of other names stay. -/
  uninterpreted : later.uninterpreted = earlier.uninterpreted
  /-- New lists of values. -/
  custom : later.custom.AppendsDefaults earlier.custom (fun key => [key]) (newKeys .string)
  /-- New stems of unique names. -/
  uuidSuffix : later.uuidSuffix.AppendsDefaults earlier.uuidSuffix (fun key => key)
    (newKeys .uuidSuffix)
  /-- New lists of header values. -/
  header : later.header.AppendsDefaults earlier.header (fun key => [key]) (newKeys .header)

/-- The value for a section, given one for each. -/
def bySection {α : Type} (string uuidSuffix header : α) : DictionarySection → α
  | .string => string
  | .uuidSuffix => uuidSuffix
  | .header => header

/-- Whether one dictionary grew out of another by default entries alone. -/
def GrowsByDefault (later earlier : Dictionary) : Prop :=
  ∃ newKeys, later.AppendsDefaults earlier newKeys

variable {first middle last : Dictionary} {front back newKeys : DictionarySection → List String}

/-- The new keys of all sections are counted. -/
theorem AppendsDefaults.size_eq (grown : last.AppendsDefaults first newKeys) :
    last.size = first.size +
      ((newKeys .string).length + (newKeys .uuidSuffix).length + (newKeys .header).length) := by
  rw [size, size, grown.custom.size_eq, grown.uuidSuffix.size_eq, grown.header.size_eq]
  omega

/-- The keys of a section are those there were and the new ones. -/
theorem AppendsDefaults.keys_eq (grown : last.AppendsDefaults first newKeys)
    (from_ : DictionarySection) : last.keys from_ = first.keys from_ ++ newKeys from_ := by
  cases from_ with
  | string => exact grown.custom.keys_eq
  | uuidSuffix => exact grown.uuidSuffix.keys_eq
  | header => exact grown.header.keys_eq

/-- A new key was not held. -/
theorem AppendsDefaults.unheld (grown : last.AppendsDefaults first newKeys)
    {from_ : DictionarySection} {key : String} (member : key ∈ newKeys from_) :
    ¬first.Holds from_ key := by
  rintro ⟨held, old, alike⟩
  have listed := grown.keys_eq from_
  have present : held ∈ last.keys from_ := by
    rw [listed]
    exact List.mem_append_left _ old
  have distinct : (last.keys from_).Nodup := by
    cases from_ with
    | string => exact last.custom.distinct
    | uuidSuffix => exact last.uuidSuffix.distinct
    | header => exact last.header.distinct
  have same : held = key := by
    cases from_ with
    | string => exact grown.custom.apart key member held present alike
    | uuidSuffix => exact grown.uuidSuffix.apart key member held present alike
    | header => exact grown.header.apart key member held present alike
  rw [listed, List.nodup_append] at distinct
  exact distinct.2.2 held old key member same

/-- Without new keys the dictionary is the same. -/
theorem AppendsDefaults.eq_of_none_new (grown : last.AppendsDefaults first newKeys)
    (none : ∀ from_, newKeys from_ = []) : last = first := by
  have each : ∀ {α : Type} {later earlier : Entries α} {value : String → α} {keys : List String},
      later.AppendsDefaults earlier value keys → keys = [] → later = earlier := by
    rintro α ⟨later, _⟩ ⟨earlier, _⟩ value keys appended rfl
    have same := appended.toList
    rw [List.map_nil, List.append_nil] at same
    cases same
    rfl
  have uninterpreted := grown.uninterpreted
  have custom := each grown.custom (none _)
  have uuidSuffix := each grown.uuidSuffix (none _)
  have header := each grown.header (none _)
  cases last
  cases first
  cases uninterpreted
  cases custom
  cases uuidSuffix
  cases header
  rfl

/-- A dictionary with default entries at the ends of its sections has grown. -/
theorem GrowsByDefault.extends (grown : last.GrowsByDefault first) : last.Extends first := by
  obtain ⟨_, appended⟩ := grown
  exact ⟨appended.uninterpreted, appended.custom.extends, appended.uuidSuffix.extends,
    appended.header.extends⟩

/-- A dictionary grew out of itself. -/
theorem GrowsByDefault.refl (dictionary : Dictionary) : dictionary.GrowsByDefault dictionary :=
  ⟨fun _ => [], rfl, .refl _, .refl _, .refl _⟩

/-- A dictionary that grew twice grew. -/
theorem GrowsByDefault.trans (later : last.GrowsByDefault middle)
    (earlier : middle.GrowsByDefault first) : last.GrowsByDefault first := by
  obtain ⟨back, appended⟩ := later
  obtain ⟨front, prepared⟩ := earlier
  exact ⟨fun from_ => front from_ ++ back from_,
    appended.uninterpreted.trans prepared.uninterpreted, appended.custom.trans prepared.custom,
    appended.uuidSuffix.trans prepared.uuidSuffix, appended.header.trans prepared.header⟩

/-- Registering a payload appends at most its default entry. -/
theorem growsByDefault_register (dictionary : Dictionary) (payload : CustomPayload) :
    (dictionary.register payload).1.GrowsByDefault dictionary := by
  unfold register
  split
  · have custom := Entries.appendsDefaults_insertMissing dictionary.custom (fun key => [key])
      payload.name
    exact ⟨bySection _ [] [], rfl, custom, .refl _, .refl _⟩
  · have uuidSuffix := Entries.appendsDefaults_insertMissing dictionary.uuidSuffix (fun key => key)
      payload.name
    exact ⟨bySection [] _ [], rfl, .refl _, uuidSuffix, .refl _⟩
  · have header := Entries.appendsDefaults_insertMissing dictionary.header (fun key => [key])
      payload.name
    exact ⟨bySection [] [] _, rfl, .refl _, .refl _, header⟩

/-- Registering payloads appends default entries. -/
theorem growsByDefault_registerAll (dictionary : Dictionary) (payloads : List CustomPayload) :
    (dictionary.registerAll payloads).GrowsByDefault dictionary := by
  induction payloads generalizing dictionary with
  | nil => exact .refl dictionary
  | cons payload rest ih => exact (ih _).trans (growsByDefault_register dictionary payload)

/-- Merging a dictionary that grew by default entries out of one that this dictionary grew out of
appends default entries. -/
theorem growsByDefault_mergeMissing {dictionary : Dictionary} (since : dictionary.Extends first)
    (grown : last.GrowsByDefault first) :
    (dictionary.mergeMissing last).1.GrowsByDefault dictionary := by
  obtain ⟨_, appended⟩ := grown
  obtain ⟨custom, customAppended⟩ :=
    Entries.appendsDefaults_mergeMissing_of_grown since.custom appended.custom
  obtain ⟨uuidSuffix, uuidSuffixAppended⟩ :=
    Entries.appendsDefaults_mergeMissing_of_grown since.uuidSuffix appended.uuidSuffix
  obtain ⟨header, headerAppended⟩ :=
    Entries.appendsDefaults_mergeMissing_of_grown since.header appended.header
  exact ⟨bySection custom uuidSuffix header, rfl,
    customAppended, uuidSuffixAppended, headerAppended⟩

end Dictionary

end ApiWiring
