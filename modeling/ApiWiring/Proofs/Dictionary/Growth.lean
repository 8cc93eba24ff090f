import ApiWiring.Api.Dictionary
import ApiWiring.Proofs.Keyed.Growth
import Mathlib.Data.List.Nodup

/-!
# How a dictionary grows

Registering a payload and merging another dictionary only ever append entries, so a dictionary that
grew out of another one has all of its keys and answers its look-ups alike. After a payload is
registered its section holds its name ignoring case; the name itself is a new key exactly when the
section did not hold it. Of several spellings of one name, the one that came first is the key.
-/
namespace ApiWiring.Dictionary

open Text

/-- Whether one dictionary grew out of another by adding entries under new keys. -/
structure Extends (later earlier : Dictionary) : Prop where
  /-- Sections of other names stay. -/
  uninterpreted : later.uninterpreted = earlier.uninterpreted
  /-- The lists of values grew. -/
  custom : later.custom.Extends earlier.custom
  /-- The stems of unique names grew. -/
  uuidSuffix : later.uuidSuffix.Extends earlier.uuidSuffix
  /-- The lists of header values grew. -/
  header : later.header.Extends earlier.header

/-- Whether some key of a section equals this one ignoring case. -/
def Holds (dictionary : Dictionary) (from_ : DictionarySection) (key : String) : Prop :=
  ∃ held ∈ dictionary.keys from_, EqualIgnoringCase held key

/-- Every key is held. -/
theorem Holds.of_mem {dictionary : Dictionary} {from_ : DictionarySection} {key : String}
    (member : key ∈ dictionary.keys from_) : dictionary.Holds from_ key :=
  ⟨key, member, rfl⟩

/-- Keys equal ignoring case are held alike. -/
theorem Holds.congr {dictionary : Dictionary} {from_ : DictionarySection} {left right : String}
    (held : dictionary.Holds from_ left) (same : EqualIgnoringCase left right) :
    dictionary.Holds from_ right := by
  obtain ⟨stored, member, alike⟩ := held
  exact ⟨stored, member, alike.trans same⟩

/-- A dictionary grew out of itself. -/
theorem Extends.refl (dictionary : Dictionary) : dictionary.Extends dictionary :=
  ⟨rfl, .refl _, .refl _, .refl _⟩

/-- A dictionary that grew twice grew. -/
theorem Extends.trans {last middle first : Dictionary} (later : last.Extends middle)
    (earlier : middle.Extends first) : last.Extends first where
  uninterpreted := later.uninterpreted.trans earlier.uninterpreted
  custom := later.custom.trans earlier.custom
  uuidSuffix := later.uuidSuffix.trans earlier.uuidSuffix
  header := later.header.trans earlier.header

/-- Keys stay. -/
theorem Extends.mem_keys {later earlier : Dictionary} (grown : later.Extends earlier)
    {from_ : DictionarySection} {key : String} (member : key ∈ earlier.keys from_) :
    key ∈ later.keys from_ := by
  cases from_ with
  | string => exact grown.custom.mem_keys member
  | uuidSuffix => exact grown.uuidSuffix.mem_keys member
  | header => exact grown.header.mem_keys member

/-- What is held stays held. -/
theorem Extends.holds {later earlier : Dictionary} (grown : later.Extends earlier)
    {from_ : DictionarySection} {key : String} (held : earlier.Holds from_ key) :
    later.Holds from_ key := by
  obtain ⟨stored, member, same⟩ := held
  exact ⟨stored, grown.mem_keys member, same⟩

/-- What a look-up found it finds again after the dictionary grew. -/
theorem Extends.key? {later earlier : Dictionary} (grown : later.Extends earlier)
    {from_ : DictionarySection} {key stored : String}
    (found : earlier.key? from_ key = some stored) : later.key? from_ key = some stored := by
  cases from_ with
  | string => exact grown.custom.key? found
  | uuidSuffix => exact grown.uuidSuffix.key? found
  | header => cases found

/-- A key found is one of the keys and equals the key asked for ignoring case. -/
theorem mem_keys_of_key? {dictionary : Dictionary} {from_ : DictionarySection}
    {key stored : String} (found : dictionary.key? from_ key = some stored) :
    stored ∈ dictionary.keys from_ ∧ EqualIgnoringCase stored key := by
  cases from_ with
  | string => exact Entries.mem_keys_of_key? found
  | uuidSuffix => exact Entries.mem_keys_of_key? found
  | header => cases found

/-- One of the keys is found as it is spelled, except among headers. -/
theorem key?_of_mem {dictionary : Dictionary} {from_ : DictionarySection} {key : String}
    (sought : from_ ≠ .header) (member : key ∈ dictionary.keys from_) :
    dictionary.key? from_ key = some key := by
  cases from_ with
  | string => exact Entries.key?_of_mem member
  | uuidSuffix => exact Entries.key?_of_mem member
  | header => exact absurd rfl sought

/-- A key that is held is found, except among headers. -/
theorem not_holds_of_key? {dictionary : Dictionary} {from_ : DictionarySection} {key : String}
    (sought : from_ ≠ .header) (missing : dictionary.key? from_ key = none) :
    ¬dictionary.Holds from_ key := by
  rintro ⟨held, member, same⟩
  cases from_ with
  | string => exact Entries.not_holds_iff.mp (Entries.key?_eq_none_iff.mp missing) held member same
  | uuidSuffix =>
    exact Entries.not_holds_iff.mp (Entries.key?_eq_none_iff.mp missing) held member same
  | header => exact absurd rfl sought

/-- Of the keys that a section did not hold before the dictionary grew, no two are equal ignoring
case. -/
theorem Extends.eq_of_alike {later earlier : Dictionary} (grown : later.Extends earlier)
    {from_ : DictionarySection} {key left right : String} (absent : ¬earlier.Holds from_ key)
    (inLeft : left ∈ later.keys from_) (inRight : right ∈ later.keys from_)
    (likeLeft : EqualIgnoringCase left key) (likeRight : EqualIgnoringCase right key) :
    left = right := by
  have missing : ∀ {α : Type} {entries : Entries α},
      (¬∃ held ∈ entries.keys, EqualIgnoringCase held key) → entries.holds key = false := by
    intro α entries unheld
    rwa [← Entries.holds_iff, Bool.not_eq_true] at unheld
  cases from_ with
  | string => exact grown.custom.eq_of_alike (missing absent) inLeft inRight likeLeft likeRight
  | uuidSuffix =>
    exact grown.uuidSuffix.eq_of_alike (missing absent) inLeft inRight likeLeft likeRight
  | header => exact grown.header.eq_of_alike (missing absent) inLeft inRight likeLeft likeRight

/-- No key of a section occurs twice. -/
theorem nodup_keys (dictionary : Dictionary) (from_ : DictionarySection) :
    (dictionary.keys from_).Nodup := by
  cases from_ with
  | string => exact dictionary.custom.distinct
  | uuidSuffix => exact dictionary.uuidSuffix.distinct
  | header => exact dictionary.header.distinct

/-- A key that a section did not hold before the dictionary grew is the only one that equals it
ignoring case. -/
theorem Extends.filter_alike {later earlier : Dictionary} (grown : later.Extends earlier)
    {from_ : DictionarySection} {key : String} (absent : ¬earlier.Holds from_ key)
    (member : key ∈ later.keys from_) :
    (later.keys from_).filter (fun other => decide (EqualIgnoringCase other key)) = [key] := by
  have only : (later.keys from_).filter (fun other => decide (EqualIgnoringCase other key)) =
      (later.keys from_).filter (· == key) := by
    refine List.filter_congr fun other listed => ?_
    rw [beq_eq_decide, decide_eq_decide]
    constructor
    · exact fun alike => grown.eq_of_alike absent listed member alike rfl
    · rintro rfl
      rfl
  rw [only, List.filter_beq, List.count_eq_one_of_mem (later.nodup_keys from_) member]
  rfl

/-! ## Registering -/

/-- Registering makes a dictionary grow. -/
theorem extends_register (dictionary : Dictionary) (payload : CustomPayload) :
    (dictionary.register payload).1.Extends dictionary := by
  unfold register
  split
  · exact ⟨rfl, Entries.extends_insertMissing _ _ _, .refl _, .refl _⟩
  · exact ⟨rfl, .refl _, Entries.extends_insertMissing _ _ _, .refl _⟩
  · exact ⟨rfl, .refl _, .refl _, Entries.extends_insertMissing _ _ _⟩

/-- The keys after a payload is registered: its name is new when its section did not hold it. -/
theorem mem_keys_register {dictionary : Dictionary} {payload : CustomPayload}
    {from_ : DictionarySection} {key : String} :
    key ∈ (dictionary.register payload).1.keys from_ ↔
      key ∈ dictionary.keys from_ ∨
        (from_ = payload.section_ ∧ key = payload.name ∧ ¬dictionary.Holds from_ key) := by
  obtain ⟨place, type, name, isObject⟩ := payload
  have missing : ∀ {α : Type} (entries : Entries α) (sought : String),
      entries.holds sought = false ↔ ¬∃ held ∈ entries.keys, EqualIgnoringCase held sought := by
    intro α entries sought
    rw [← Entries.holds_iff, Bool.not_eq_true]
  cases place <;> cases from_ <;>
    simp only [register, keys, Holds, Entries.mem_keys_insertMissing, missing, reduceCtorEq,
      false_and, or_false, true_and] <;>
    exact or_congr_right (and_congr_right fun same => by rw [same])

/-- The section of a payload holds its name after it is registered. -/
theorem holds_register (dictionary : Dictionary) (payload : CustomPayload) :
    (dictionary.register payload).1.Holds payload.section_ payload.name := by
  by_cases held : dictionary.Holds payload.section_ payload.name
  · exact (extends_register dictionary payload).holds held
  · exact .of_mem (mem_keys_register.mpr (.inr ⟨rfl, rfl, held⟩))

/-- Registering several payloads makes a dictionary grow. -/
theorem extends_registerAll (dictionary : Dictionary) (payloads : List CustomPayload) :
    (dictionary.registerAll payloads).Extends dictionary := by
  induction payloads generalizing dictionary with
  | nil => exact .refl dictionary
  | cons payload rest ih => exact (ih _).trans (extends_register dictionary payload)

/-- Payloads are registered one list after the other. -/
theorem registerAll_append (dictionary : Dictionary) (front back : List CustomPayload) :
    dictionary.registerAll (front ++ back) = (dictionary.registerAll front).registerAll back := by
  simp [registerAll]

/-- The names that payloads have in a section, in order. -/
def namesIn (from_ : DictionarySection) (payloads : List CustomPayload) : List String :=
  (payloads.filter (·.section_ = from_)).map (·.name)

/-- The first of the names in a section that equals a key ignoring case. -/
def firstSpelling? (from_ : DictionarySection) (payloads : List CustomPayload) (key : String) :
    Option String :=
  (namesIn from_ payloads).find? fun name => decide (EqualIgnoringCase name key)

/-- The first spelling is that of the first payload, if it spells the key in the section. -/
theorem firstSpelling?_cons (from_ : DictionarySection) (payload : CustomPayload)
    (rest : List CustomPayload) (key : String) :
    firstSpelling? from_ (payload :: rest) key =
      if payload.section_ = from_ ∧ EqualIgnoringCase payload.name key then some payload.name
      else firstSpelling? from_ rest key := by
  by_cases here : payload.section_ = from_
  · simp only [firstSpelling?, namesIn, here, decide_true, List.filter_cons_of_pos, List.map_cons,
      List.find?_cons, true_and]
    by_cases alike : EqualIgnoringCase payload.name key
    · rw [decide_eq_true alike, if_pos alike]
    · rw [decide_eq_false alike, if_neg alike]
  · simp [firstSpelling?, namesIn, here]

/-- A section holds what it held before a payload was registered, and the name of the payload. -/
theorem holds_register_iff {dictionary : Dictionary} {payload : CustomPayload}
    {from_ : DictionarySection} {key : String} :
    (dictionary.register payload).1.Holds from_ key ↔
      dictionary.Holds from_ key ∨
        (payload.section_ = from_ ∧ EqualIgnoringCase payload.name key) := by
  constructor
  · rintro ⟨stored, member, same⟩
    rcases mem_keys_register.mp member with old | ⟨rfl, rfl, _⟩
    · exact .inl ⟨stored, old, same⟩
    · exact .inr ⟨rfl, same⟩
  · rintro (held | ⟨rfl, same⟩)
    · exact (extends_register dictionary payload).holds held
    · exact (holds_register dictionary payload).congr same

/-- Payloads are registered one after the other. -/
theorem registerAll_cons (dictionary : Dictionary) (payload : CustomPayload)
    (rest : List CustomPayload) :
    dictionary.registerAll (payload :: rest) = (dictionary.register payload).1.registerAll rest :=
  rfl

/-- A section holds what it held before payloads were registered, and their names. -/
theorem holds_registerAll {dictionary : Dictionary} {payloads : List CustomPayload}
    {from_ : DictionarySection} {key : String} :
    (dictionary.registerAll payloads).Holds from_ key ↔
      dictionary.Holds from_ key ∨ (firstSpelling? from_ payloads key).isSome := by
  induction payloads generalizing dictionary with
  | nil => simp [registerAll, firstSpelling?, namesIn]
  | cons payload rest ih =>
    rw [registerAll_cons, ih, holds_register_iff, firstSpelling?_cons, or_assoc]
    by_cases spelled : payload.section_ = from_ ∧ EqualIgnoringCase payload.name key
    · rw [if_pos spelled]
      exact iff_of_true (.inr (.inl spelled)) (.inr rfl)
    · rw [if_neg spelled, or_iff_right spelled]

/-- After payloads are registered, the section of each of them holds its name. -/
theorem holds_registerAll_of_mem {dictionary : Dictionary} {payloads : List CustomPayload}
    {payload : CustomPayload} (member : payload ∈ payloads) :
    (dictionary.registerAll payloads).Holds payload.section_ payload.name := by
  refine holds_registerAll.mpr (.inr ?_)
  rw [firstSpelling?, List.find?_isSome]
  refine ⟨payload.name, List.mem_map_of_mem (List.mem_filter.mpr ⟨member, ?_⟩), ?_⟩
  · exact decide_eq_true rfl
  · exact decide_eq_true rfl

/-- A name that was no key is one after payloads are registered exactly when no key equalled it
ignoring case and the first payload that equals it ignoring case is spelled like it. -/
theorem mem_keys_registerAll {dictionary : Dictionary} {payloads : List CustomPayload}
    {from_ : DictionarySection} {key : String} (absent : key ∉ dictionary.keys from_) :
    key ∈ (dictionary.registerAll payloads).keys from_ ↔
      ¬dictionary.Holds from_ key ∧ firstSpelling? from_ payloads key = some key := by
  induction payloads generalizing dictionary with
  | nil => simp [registerAll, firstSpelling?, namesIn, absent]
  | cons payload rest ih =>
    rw [registerAll_cons, firstSpelling?_cons]
    by_cases added : key ∈ (dictionary.register payload).1.keys from_
    · obtain ⟨rfl, rfl, unheld⟩ := (mem_keys_register.mp added).resolve_left absent
      simp [(extends_registerAll _ rest).mem_keys added, unheld]
    · rw [ih added, holds_register_iff]
      by_cases spelled : payload.section_ = from_ ∧ EqualIgnoringCase payload.name key
      · -- The payload takes the place of the key without being spelled like it.
        rw [if_pos spelled, Option.some.injEq]
        constructor
        · rintro ⟨unheld, _⟩
          exact absurd (.inr spelled) unheld
        · rintro ⟨unheld, same⟩
          exact absurd (mem_keys_register.mpr (.inr ⟨spelled.1.symm, same.symm, unheld⟩)) added
      · rw [if_neg spelled, or_iff_left spelled]

/-- A key after payloads are registered was one before, or it is the name of one of the payloads and
no key equalled it ignoring case. -/
theorem new_of_mem_keys_registerAll {dictionary : Dictionary} {payloads : List CustomPayload}
    {from_ : DictionarySection} {key : String}
    (member : key ∈ (dictionary.registerAll payloads).keys from_) :
    key ∈ dictionary.keys from_ ∨ (¬dictionary.Holds from_ key ∧
      ∃ payload ∈ payloads, payload.section_ = from_ ∧ payload.name = key) := by
  by_cases present : key ∈ dictionary.keys from_
  · exact .inl present
  · obtain ⟨unheld, spelled⟩ := (mem_keys_registerAll present).mp member
    obtain ⟨payload, listed, named⟩ := List.mem_map.mp (List.mem_of_find?_eq_some spelled)
    obtain ⟨among, here⟩ := List.mem_filter.mp listed
    exact .inr ⟨unheld, payload, among, of_decide_eq_true here, named⟩

/-- A key that a section did not hold is found, after payloads are registered, as the first of them
spells it. -/
theorem key?_registerAll {dictionary : Dictionary} {payloads : List CustomPayload}
    {from_ : DictionarySection} {key : String} (sought : from_ ≠ .header)
    (absent : ¬dictionary.Holds from_ key) :
    (dictionary.registerAll payloads).key? from_ key = firstSpelling? from_ payloads key := by
  cases spelled : firstSpelling? from_ payloads key with
  | none =>
    cases found : (dictionary.registerAll payloads).key? from_ key with
    | none => rfl
    | some stored =>
      obtain ⟨member, same⟩ := mem_keys_of_key? found
      have held := holds_registerAll.mp ⟨stored, member, same⟩
      rw [spelled, Option.isSome_none, or_iff_left Bool.false_ne_true] at held
      exact absurd held absent
  | some spelling =>
    have alike : EqualIgnoringCase spelling key := by
      have passed := List.find?_some spelled
      exact of_decide_eq_true passed
    have unheld : ¬dictionary.Holds from_ spelling := fun held => absent (held.congr alike)
    have own : firstSpelling? from_ payloads spelling = some spelling := by
      rw [← spelled, firstSpelling?, firstSpelling?]
      congr 1
      funext name
      exact decide_eq_decide.mpr ⟨fun same => same.trans alike, fun same => same.trans alike.symm⟩
    have listed : spelling ∈ (dictionary.registerAll payloads).keys from_ :=
      (mem_keys_registerAll fun old => unheld (.of_mem old)).mpr ⟨unheld, own⟩
    cases found : (dictionary.registerAll payloads).key? from_ key with
    | none => exact absurd ((Holds.of_mem listed).congr alike) (not_holds_of_key? sought found)
    | some stored =>
      obtain ⟨member, same⟩ := mem_keys_of_key? found
      have grown := extends_registerAll dictionary payloads
      rw [grown.eq_of_alike absent member listed same alike]

/-! ## Merging -/

/-- Merging makes a dictionary grow. -/
theorem extends_mergeMissing (dictionary other : Dictionary) :
    (dictionary.mergeMissing other).1.Extends dictionary :=
  ⟨rfl, Entries.extends_mergeMissing _ _, Entries.extends_mergeMissing _ _,
    Entries.extends_mergeMissing _ _⟩

/-- What a dictionary holds is held by one it was merged into. -/
theorem holds_mergeMissing {dictionary other : Dictionary} {from_ : DictionarySection}
    {key : String} (held : other.Holds from_ key) :
    (dictionary.mergeMissing other).1.Holds from_ key := by
  obtain ⟨stored, member, same⟩ := held
  have taken : (dictionary.mergeMissing other).1.Holds from_ stored := by
    cases from_ with
    | string => exact Entries.holds_iff.mp (Entries.holds_mergeMissing member)
    | uuidSuffix => exact Entries.holds_iff.mp (Entries.holds_mergeMissing member)
    | header => exact Entries.holds_iff.mp (Entries.holds_mergeMissing member)
  exact taken.congr same

/-- Merging a dictionary into one that grew out of it changes nothing. -/
theorem mergeMissing_of_extends {dictionary other : Dictionary}
    (grown : dictionary.Extends other) : (dictionary.mergeMissing other).1 = dictionary := by
  have each : ∀ {α : Type} {later earlier : Entries α}, later.Extends earlier →
      (later.mergeMissing earlier.toList).1 = later := by
    intro α later earlier kept
    refine Entries.mergeMissing_of_held fun entry member => ?_
    exact Entries.holds_of_mem (kept.mem_keys (List.mem_map_of_mem member))
  simp only [mergeMissing, each grown.custom, each grown.uuidSuffix, each grown.header]

/-- Merging a dictionary into itself changes nothing. -/
theorem mergeMissing_self (dictionary : Dictionary) :
    (dictionary.mergeMissing dictionary).1 = dictionary :=
  mergeMissing_of_extends (.refl dictionary)

/-- What is registered in a dictionary before it is merged is registered in the merged one. -/
theorem mergeMissing_register (dictionary other : Dictionary) (payload : CustomPayload) :
    (dictionary.mergeMissing (other.register payload).1).1 =
      ((dictionary.mergeMissing other).1.register payload).1 := by
  obtain ⟨place, type, name, isObject⟩ := payload
  cases place <;> simp only [mergeMissing, register, Entries.mergeMissing_insertMissing]

/-- What is registered in a dictionary that another one grew out of is, after both are merged,
registered in the other one. -/
theorem mergeMissing_registerAll {dictionary other : Dictionary}
    (grown : dictionary.Extends other) (payloads : List CustomPayload) :
    (dictionary.mergeMissing (other.registerAll payloads)).1 = dictionary.registerAll payloads := by
  have general : ∀ start : Dictionary, (dictionary.mergeMissing (start.registerAll payloads)).1 =
      (dictionary.mergeMissing start).1.registerAll payloads := by
    induction payloads with
    | nil => exact fun _ => rfl
    | cons payload rest ih =>
      intro start
      rw [registerAll_cons, registerAll_cons, ih, mergeMissing_register]
  rw [general, mergeMissing_of_extends grown]

end ApiWiring.Dictionary
