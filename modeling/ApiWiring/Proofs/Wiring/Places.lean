import ApiWiring.Proofs.Api.Endpoint
import ApiWiring.Proofs.Text.LetterCase
import ApiWiring.Proofs.Wiring.Answers

/-!
# Places for the value of a consumer

A user puts the value of a consumer into a dictionary: that of its endpoint or the starting one,
under its pointer or its name, as a list of values or as the stem of a unique name. These are the
places of the consumer, in the order in which they count (`Consumer.places`); the entry that
inference answers is the one at the first place that is stocked, up to the case of its key. What
inference itself adds to a dictionary on the way, unique names under the names of path parameters,
stocks no place but the last.
-/
namespace ApiWiring

open Text

/-- A place for the value of a consumer. -/
structure Place where
  /-- Whether the place is in the dictionary of the consumer's endpoint. -/
  special : Bool
  /-- The key. -/
  key : String
  /-- The section. -/
  section_ : DictionarySection
deriving DecidableEq, Repr

/-- The places of a consumer in the order in which they count: the dictionary of its endpoint before
the starting one, its pointer before its name, values before stems of unique names. -/
def Consumer.places (consumer : Consumer) : List Place :=
  [true, false].flatMap fun special =>
    (Inference.dictionaryKeys consumer).flatMap fun key =>
      [⟨special, key, .string⟩, ⟨special, key, .uuidSuffix⟩]

namespace Place

variable {ofEndpoint : Option Dictionary} {general : Dictionary} {consumer : Consumer}
  {place : Place}

/-- The dictionary of special places or of the others. -/
def sourceOf? (special : Bool) (ofEndpoint : Option Dictionary) (general : Dictionary) :
    Option Dictionary :=
  if special then ofEndpoint else some general

/-- Whether the dictionary of a place has its key in its section, in any case. -/
def Stocked (ofEndpoint : Option Dictionary) (general : Dictionary) (place : Place) : Prop :=
  ∃ source, sourceOf? place.special ofEndpoint general = some source ∧
    source.Holds place.section_ place.key

/-- Whether a place is the first of a consumer's that is stocked. -/
def IsFirst (ofEndpoint : Option Dictionary) (general : Dictionary) (consumer : Consumer)
    (place : Place) : Prop :=
  ∃ front back, consumer.places = front ++ place :: back ∧ place.Stocked ofEndpoint general ∧
    ∀ earlier ∈ front, ¬earlier.Stocked ofEndpoint general

/-- Whether an entry is the one that a consumer gets from a place, up to the case of its name. -/
structure Gives (place : Place) (consumer : Consumer) (entry : CustomPayload) : Prop where
  /-- It is in the section of the place. -/
  section_ : entry.section_ = place.section_
  /-- Its name is the key of the place. -/
  name : EqualIgnoringCase entry.name place.key
  /-- It has the type of the consumer. -/
  type : entry.type = consumer.slot.type
  /-- It is an object when the consumer is one. -/
  isObject : entry.isObject = (consumer.slot.type == .object)

/-- If some place of a consumer is stocked, one of them is the first. -/
theorem exists_isFirst
    (stocked : ∃ place ∈ consumer.places, place.Stocked ofEndpoint general) :
    ∃ place, IsFirst ofEndpoint general consumer place := by
  classical
  have found : (consumer.places.find? fun place =>
      decide (place.Stocked ofEndpoint general)).isSome := by
    rw [List.find?_isSome]
    simpa using stocked
  obtain ⟨place, first⟩ := Option.isSome_iff_exists.mp found
  obtain ⟨here, front, back, split, earlier⟩ := List.find?_eq_some_iff_append.mp first
  refine ⟨place, front, back, split, of_decide_eq_true here, fun other inFront => ?_⟩
  simpa using earlier other inFront

/-- No place is among the headers. -/
theorem section_ne_header (member : place ∈ consumer.places) : place.section_ ≠ .header := by
  simp only [Consumer.places, List.mem_flatMap, List.mem_pair] at member
  obtain ⟨_, _, _, _, rfl | rfl⟩ := member <;> exact nofun

/-- The key that the dictionary of a place has for it. -/
def stored? (ofEndpoint : Option Dictionary) (general : Dictionary) (place : Place) :
    Option String :=
  (sourceOf? place.special ofEndpoint general).bind fun source =>
    source.key? place.section_ place.key

/-- A place that is not stocked has no key. -/
theorem stored?_eq_none (missing : ¬place.Stocked ofEndpoint general) :
    place.stored? ofEndpoint general = none := by
  rw [stored?, Option.bind_eq_none_iff]
  intro source given
  cases found : source.key? place.section_ place.key with
  | none => rfl
  | some stored =>
    obtain ⟨listed, same⟩ := Dictionary.mem_keys_of_key? found
    exact absurd ⟨source, given, stored, listed, same⟩ missing

/-- A search through lists in turn is a search of each of them in turn. -/
theorem findSome?_flatMap {α β γ : Type} (members : List α) (lists : α → List β)
    (search : β → Option γ) :
    (members.flatMap lists).findSome? search =
      members.findSome? fun member => (lists member).findSome? search := by
  induction members with
  | nil => rfl
  | cons member rest ih =>
    rw [List.flatMap_cons, List.findSome?_append, ih, List.findSome?_cons]
    cases (lists member).findSome? search <;> rfl

/-- What is found at the places in one dictionary is what the dictionary has for the consumer. -/
theorem findSome?_stored? (consumer : Consumer) (special : Bool) :
    (((Inference.dictionaryKeys consumer).flatMap fun key =>
      [(⟨special, key, .string⟩ : Place), ⟨special, key, .uuidSuffix⟩]).findSome? fun place =>
        (place.stored? ofEndpoint general).map (place.section_, ·)) =
      (sourceOf? special ofEndpoint general).bind fun source =>
        (Inference.dictionaryKeys consumer).findSome? (Inference.entryFor? source) := by
  rw [findSome?_flatMap]
  cases given : sourceOf? special ofEndpoint general with
  | none => simp [stored?, given]
  | some source =>
    rw [Option.bind_some]
    congr 1
    funext key
    simp only [Inference.entryFor?, stored?, given, List.findSome?_cons, List.findSome?_nil,
      Option.bind_some, Dictionary.key?]
    cases source.custom.key? key <;> cases source.uuidSuffix.key? key <;> rfl

/-- The entry of a consumer is at the first of its places that has a key. -/
theorem dictionaryEntry?_eq (consumer : Consumer) (ofEndpoint : Option Dictionary)
    (general : Dictionary) :
    Inference.dictionaryEntry? consumer ofEndpoint general =
      (consumer.places.findSome? fun place => (place.stored? ofEndpoint general).map
        (place.section_, ·)).map fun (section_, name) =>
          ⟨section_, consumer.slot.type, name, consumer.slot.type == .object⟩ := by
  rw [Inference.dictionaryEntry?, Consumer.places, findSome?_flatMap]
  simp only [findSome?_stored?]
  congr 1
  cases ofEndpoint <;> simp [sourceOf?, List.findSome?_cons]

/-- The entry of a consumer is what its first place gives. -/
theorem IsFirst.entry (first : IsFirst ofEndpoint general consumer place) :
    ∃ entry, Inference.dictionaryEntry? consumer ofEndpoint general = some entry ∧
      place.Gives consumer entry := by
  obtain ⟨front, back, split, ⟨source, given, held⟩, earlier⟩ := first
  have listed : place ∈ consumer.places := by
    rw [split]
    exact List.mem_append_right _ (.head _)
  obtain ⟨stored, found⟩ : ∃ stored, source.key? place.section_ place.key = some stored := by
    rw [← Option.isSome_iff_exists, ← Option.ne_none_iff_isSome]
    intro missing
    exact Dictionary.not_holds_of_key? (section_ne_header listed) missing held
  have same := (Dictionary.mem_keys_of_key? found).2
  have nothing : (front.findSome? fun place =>
      (place.stored? ofEndpoint general).map (place.section_, ·)) = none := by
    rw [List.findSome?_eq_none_iff]
    intro other member
    rw [stored?_eq_none (earlier other member)]
    rfl
  rw [dictionaryEntry?_eq, split, List.findSome?_append, nothing, Option.none_or,
    List.findSome?_cons, stored?, given, Option.bind_some, found]
  exact ⟨_, rfl, rfl, same, rfl, rfl⟩

/-- A consumer has no entry exactly when none of its places is stocked. -/
theorem dictionaryEntry?_eq_none_iff :
    Inference.dictionaryEntry? consumer ofEndpoint general = none ↔
      ∀ place ∈ consumer.places, ¬place.Stocked ofEndpoint general := by
  constructor
  · intro missing place listed stocked
    obtain ⟨first, isFirst⟩ := exists_isFirst ⟨place, listed, stocked⟩
    obtain ⟨entry, found, _⟩ := isFirst.entry
    rw [missing] at found
    cases found
  · intro unstocked
    have nothing : (consumer.places.findSome? fun place =>
        (place.stored? ofEndpoint general).map (place.section_, ·)) = none := by
      rw [List.findSome?_eq_none_iff]
      intro place listed
      rw [stored?_eq_none (unstocked place listed)]
      rfl
    rw [dictionaryEntry?_eq, nothing]
    rfl

/-- An entry of a consumer is what its first place gives. -/
theorem exists_isFirst_of_entry {entry : CustomPayload}
    (found : Inference.dictionaryEntry? consumer ofEndpoint general = some entry) :
    ∃ place : Place, place.IsFirst ofEndpoint general consumer ∧ place.Gives consumer entry := by
  have stocked : ∃ place ∈ consumer.places, place.Stocked ofEndpoint general := by
    by_contra missing
    rw [dictionaryEntry?_eq_none_iff.mpr fun place listed held =>
      missing ⟨place, listed, held⟩] at found
    cases found
  obtain ⟨place, first⟩ := exists_isFirst stocked
  obtain ⟨other, given, gives⟩ := first.entry
  obtain rfl : entry = other := Option.some.inj (found.symm.trans given)
  exact ⟨place, first, gives⟩

end Place

/-! ## What inference adds -/

/-- Whether one dictionary grew out of another by stems of unique names under keys without slashes
only. -/
structure Dictionary.GrewByNames (later earlier : Dictionary) : Prop where
  /-- It grew out of the other. -/
  grown : later.Extends earlier
  /-- No list of values was added. -/
  custom : later.custom = earlier.custom
  /-- Nor was a key with a slash. -/
  pointers : ∀ key, '/' ∈ key.toList → later.Holds .uuidSuffix key → earlier.Holds .uuidSuffix key

/-- Finding a producer adds nothing but the unique name of a path parameter. -/
theorem Inference.grewByNames_of_find {inference : Inference} {consumer : Consumer}
    {ofEndpoint : Option Dictionary} {start before : Dictionary} (apart : consumer.LinkedElsewhere)
    (grew : before.GrewByNames start) :
    (inference.find consumer before ofEndpoint).2.GrewByNames start := by
  cases found : inference.find consumer before ofEndpoint with
  | mk result after =>
    cases result with
    | none =>
      rw [dictionary_eq_of_find_none found]
      exact grew
    | some producer =>
      cases answer_of_find apart found with
      | response | special | general => exact grew
      | minted creates =>
        have named : EqualIgnoringCase (uniqueName consumer before).name consumer.slot.name := by
          change EqualIgnoringCase ((before.uuidSuffix.key? consumer.slot.name).getD _) _
          cases stored : before.uuidSuffix.key? consumer.slot.name with
          | none => rfl
          | some key => exact (Entries.mem_keys_of_key? stored).2
        simp only [createsOwnResource, Bool.and_eq_true] at creates
        refine ⟨(Dictionary.extends_register _ _).trans grew.grown, grew.custom, ?_⟩
        intro key slash held
        rcases Dictionary.holds_register_iff.mp held with old | ⟨_, same⟩
        · exact grew.pointers key slash old
        · have inName :=
            (mem_iff_of_equalIgnoringCase (by decide) (named.symm.trans same)).mpr slash
          exact absurd inName (Endpoint.slash_not_mem_of_endsWithParameter creates.2)

namespace Place

variable {ofEndpoint : Option Dictionary} {general before : Dictionary} {consumer : Consumer}
  {place : Place}

/-- What is stocked is stocked where the general dictionary holds what it held. -/
theorem Stocked.of_kept (stocked : place.Stocked ofEndpoint general)
    (kept : ∀ from_ key, general.Holds from_ key → before.Holds from_ key) :
    place.Stocked ofEndpoint before := by
  obtain ⟨special, key, from_⟩ := place
  obtain ⟨source, given, held⟩ := stocked
  cases special with
  | true => exact ⟨source, given, held⟩
  | false =>
    cases given
    exact ⟨before, rfl, kept from_ key held⟩

/-- What is stocked stays stocked while the general dictionary grows. -/
theorem Stocked.grow (stocked : place.Stocked ofEndpoint general)
    (grown : before.Extends general) : place.Stocked ofEndpoint before :=
  stocked.of_kept fun _ _ => grown.holds

/-- A place in the endpoint's dictionary that is the first one is so where the general dictionary
holds less. -/
theorem IsFirst.of_special (first : IsFirst ofEndpoint before consumer place)
    (special : place.special = true)
    (kept : ∀ from_ key, general.Holds from_ key → before.Holds from_ key) :
    IsFirst ofEndpoint general consumer place := by
  obtain ⟨front, back, split, ⟨source, given, held⟩, earlier⟩ := first
  rw [special] at given
  refine ⟨front, back, split, ⟨source, by rw [special]; exact given, held⟩, ?_⟩
  exact fun other inFront stocked => earlier other inFront (stocked.of_kept kept)

/-- Every place but the last is in the endpoint's dictionary, among the lists of values or under a
pointer. -/
theorem apart_of_mem_dropLast
    (written : consumer.kind ≠ .path → '/' ∈ consumer.slot.accessPath.pointer.toList)
    (member : place ∈ consumer.places.dropLast) :
    place.special = true ∨ place.section_ = .string ∨ '/' ∈ place.key.toList := by
  cases kind : consumer.kind with
  | path =>
    simp only [Consumer.places, Inference.dictionaryKeys, kind, List.flatMap_cons,
      List.flatMap_nil, List.append_nil, List.cons_append, List.nil_append, List.dropLast] at member
    simp only [List.mem_cons, List.not_mem_nil, or_false] at member
    rcases member with rfl | rfl | rfl <;> simp
  | query | body =>
    have slash := written (by simp [kind])
    simp only [Consumer.places, Inference.dictionaryKeys, kind, List.flatMap_cons,
      List.flatMap_nil, List.append_nil, List.cons_append, List.nil_append, List.dropLast] at member
    simp only [List.mem_cons, List.not_mem_nil, or_false] at member
    rcases member with rfl | rfl | rfl | rfl | rfl | rfl | rfl <;> simp [slash]

/-- A place of this kind that is stocked after names were added was stocked before. -/
theorem Stocked.of_grewByNames (stocked : place.Stocked ofEndpoint before)
    (grew : before.GrewByNames general) (sought : place.section_ ≠ .header)
    (apart : place.special = true ∨ place.section_ = .string ∨ '/' ∈ place.key.toList) :
    place.Stocked ofEndpoint general := by
  obtain ⟨special, key, from_⟩ := place
  obtain ⟨source, given, held⟩ := stocked
  cases special with
  | true => exact ⟨source, given, held⟩
  | false =>
    cases given
    refine ⟨general, rfl, ?_⟩
    cases from_ with
    | header => exact absurd rfl sought
    | string =>
      rw [Dictionary.Holds, Dictionary.keys, grew.custom] at held
      exact held
    | uuidSuffix => exact grew.pointers key (by simpa using apart) held

/-- The first place of a consumer stays the first while names are added. -/
theorem IsFirst.of_grewByNames (first : IsFirst ofEndpoint general consumer place)
    (grew : before.GrewByNames general)
    (written : consumer.kind ≠ .path → '/' ∈ consumer.slot.accessPath.pointer.toList) :
    IsFirst ofEndpoint before consumer place := by
  obtain ⟨front, back, split, stocked, earlier⟩ := first
  refine ⟨front, back, split, stocked.grow grew.grown, fun other inFront again => ?_⟩
  have listed : other ∈ consumer.places.dropLast := by
    rw [split, List.dropLast_append_cons]
    exact List.mem_append_left _ inFront
  have sought := section_ne_header (List.dropLast_subset _ listed)
  exact earlier other inFront
    (again.of_grewByNames grew sought (apart_of_mem_dropLast written listed))

end Place

end ApiWiring
