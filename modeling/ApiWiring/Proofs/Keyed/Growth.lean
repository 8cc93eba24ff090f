import ApiWiring.Keyed.Entries
import Mathlib.Data.List.Pairwise

/-!
# How entries grow

Entries are only ever appended, and only under keys that no key equals ignoring case. So a
collection that grew out of another one begins with it, its new keys differ ignoring case from all
others (`Extends`), and every look-up that found something finds the same again.
-/
namespace ApiWiring.Entries

open Text

variable {α : Type}

/-- Whether one collection grew out of another by adding entries under new keys. -/
def Extends (later earlier : Entries α) : Prop :=
  ∃ added, later.toList = earlier.toList ++ added ∧
    (∀ entry ∈ added, earlier.holds entry.1 = false) ∧
      added.Pairwise fun left right => ¬EqualIgnoringCase left.1 right.1

/-- A key is held when some key equals it ignoring case. -/
theorem holds_iff {entries : Entries α} {key : String} :
    entries.holds key = true ↔ ∃ held ∈ entries.keys, EqualIgnoringCase held key := by
  simp only [holds, List.any_eq_true, decide_eq_true_eq]

/-- A key is not held when every key differs from it ignoring case. -/
theorem not_holds_iff {entries : Entries α} {key : String} :
    entries.holds key = false ↔ ∀ held ∈ entries.keys, ¬EqualIgnoringCase held key := by
  rw [← Bool.not_eq_true, holds_iff]
  simp only [not_exists, not_and]

/-- Every key is held. -/
theorem holds_of_mem {entries : Entries α} {key : String} (member : key ∈ entries.keys) :
    entries.holds key = true :=
  holds_iff.mpr ⟨key, member, rfl⟩

/-- Nothing is added to entries by doing nothing. -/
theorem Extends.refl (entries : Entries α) : entries.Extends entries :=
  ⟨[], by simp, by simp, .nil⟩

/-- The keys of a collection that grew are the keys it had and those added. -/
theorem keys_of_toList_append {later earlier : Entries α} {added : List (String × α)}
    (grown : later.toList = earlier.toList ++ added) :
    later.keys = earlier.keys ++ added.map (·.1) := by
  simp [keys, grown]

/-- A collection that grew twice grew. -/
theorem Extends.trans {last middle first : Entries α} (later : last.Extends middle)
    (earlier : middle.Extends first) : last.Extends first := by
  obtain ⟨front, built, frontNew, frontApart⟩ := earlier
  obtain ⟨back, rebuilt, backNew, backApart⟩ := later
  refine ⟨front ++ back, by simp [rebuilt, built], ?_, ?_⟩
  · intro entry member
    rcases List.mem_append.mp member with inFront | inBack
    · exact frontNew entry inFront
    · have apart := not_holds_iff.mp (backNew entry inBack)
      rw [keys_of_toList_append built] at apart
      exact not_holds_iff.mpr fun held present => apart held (List.mem_append_left _ present)
  · refine List.pairwise_append.mpr ⟨frontApart, backApart, fun left inFront right inBack => ?_⟩
    have apart := not_holds_iff.mp (backNew right inBack)
    rw [keys_of_toList_append built] at apart
    exact apart left.1 (List.mem_append_right _ (List.mem_map_of_mem inFront))

/-- Keys stay. -/
theorem Extends.mem_keys {later earlier : Entries α} (grown : later.Extends earlier)
    {key : String} (member : key ∈ earlier.keys) : key ∈ later.keys := by
  obtain ⟨added, built, _, _⟩ := grown
  rw [keys_of_toList_append built]
  exact List.mem_append_left _ member

/-- What is held stays held. -/
theorem Extends.holds {later earlier : Entries α} (grown : later.Extends earlier)
    {key : String} (held : earlier.holds key = true) : later.holds key = true := by
  obtain ⟨stored, member, same⟩ := holds_iff.mp held
  exact holds_iff.mpr ⟨stored, grown.mem_keys member, same⟩

/-- Of the keys that a collection did not hold before it grew, no two are equal ignoring case. -/
theorem Extends.eq_of_alike {later earlier : Entries α} (grown : later.Extends earlier)
    {key left right : String} (absent : earlier.holds key = false) (inLeft : left ∈ later.keys)
    (inRight : right ∈ later.keys) (likeLeft : EqualIgnoringCase left key)
    (likeRight : EqualIgnoringCase right key) : left = right := by
  obtain ⟨added, built, _, apart⟩ := grown
  have new : ∀ name ∈ later.keys, EqualIgnoringCase name key → name ∈ added.map (·.1) := by
    intro name member alike
    rw [keys_of_toList_append built] at member
    rcases List.mem_append.mp member with old | fresh
    · exact absurd alike (not_holds_iff.mp absent name old)
    · exact fresh
  obtain ⟨first, inAdded, rfl⟩ := List.mem_map.mp (new left inLeft likeLeft)
  obtain ⟨second, among, rfl⟩ := List.mem_map.mp (new right inRight likeRight)
  by_contra different
  have unequal : first ≠ second := fun same => different (by rw [same])
  have symmetric : Std.Symm fun left right : String × α => ¬EqualIgnoringCase left.1 right.1 :=
    ⟨fun left right distinct same => distinct same.symm⟩
  exact List.Pairwise.forall apart inAdded among unequal (likeLeft.trans likeRight.symm)

/-- Adding an entry makes a collection grow. -/
theorem extends_insertMissing (entries : Entries α) (key : String) (value : α) :
    (entries.insertMissing key value).1.Extends entries := by
  cases held : entries.holds key with
  | true => exact ⟨[], by simp [toList_insertMissing, held], by simp, .nil⟩
  | false =>
    refine ⟨[(key, value)], by simp [toList_insertMissing, held], ?_, List.pairwise_singleton _ _⟩
    intro entry member
    rw [List.mem_singleton.mp member]
    exact held

/-- A key whose entry is to be added is held afterwards. -/
theorem holds_insertMissing (entries : Entries α) (key : String) (value : α) :
    (entries.insertMissing key value).1.holds key = true := by
  cases held : entries.holds key with
  | true => exact (extends_insertMissing entries key value).holds held
  | false =>
    apply holds_of_mem
    simp [keys, toList_insertMissing, held]

/-- An entry that is not new changes nothing. -/
theorem insertMissing_of_holds {entries : Entries α} {key : String} {value : α}
    (held : entries.holds key = true) : entries.insertMissing key value = (entries, false) := by
  simp [insertMissing, held]

/-- The keys after an entry is to be added: the key is new when it was not held. -/
theorem mem_keys_insertMissing {entries : Entries α} {key other : String} {value : α} :
    other ∈ (entries.insertMissing key value).1.keys ↔
      other ∈ entries.keys ∨ (other = key ∧ entries.holds key = false) := by
  cases held : entries.holds key <;> simp [keys, toList_insertMissing, held]

/-- Merging adds the entries one after the other. -/
theorem fst_mergeMissing (entries : Entries α) (others : List (String × α)) :
    (entries.mergeMissing others).1 =
      others.foldl (fun entries entry => (entries.insertMissing entry.1 entry.2).1) entries := by
  unfold mergeMissing
  exact (List.foldl_hom Prod.fst (fun _ _ => rfl)).symm

/-- Merging adds the first entry and merges the others. -/
theorem fst_mergeMissing_cons (entries : Entries α) (entry : String × α)
    (rest : List (String × α)) : (entries.mergeMissing (entry :: rest)).1 =
      ((entries.insertMissing entry.1 entry.2).1.mergeMissing rest).1 := by
  rw [fst_mergeMissing, fst_mergeMissing, List.foldl_cons]

/-- Merging makes a collection grow. -/
theorem extends_mergeMissing (entries : Entries α) (others : List (String × α)) :
    (entries.mergeMissing others).1.Extends entries := by
  induction others generalizing entries with
  | nil => exact .refl entries
  | cons entry rest ih =>
    rw [fst_mergeMissing_cons]
    exact (ih _).trans (extends_insertMissing entries entry.1 entry.2)

/-- Every key merged is held afterwards. -/
theorem holds_mergeMissing {entries : Entries α} {others : List (String × α)} {key : String}
    (member : key ∈ others.map (·.1)) : (entries.mergeMissing others).1.holds key = true := by
  induction others generalizing entries with
  | nil => simp at member
  | cons entry rest ih =>
    rw [fst_mergeMissing_cons]
    rcases List.mem_cons.mp member with rfl | later
    · exact (extends_mergeMissing _ rest).holds (holds_insertMissing entries entry.1 entry.2)
    · exact ih later

/-- Merging entries whose keys are all held changes nothing. -/
theorem mergeMissing_of_held {entries : Entries α} {others : List (String × α)}
    (held : ∀ entry ∈ others, entries.holds entry.1 = true) :
    (entries.mergeMissing others).1 = entries := by
  induction others with
  | nil => rfl
  | cons entry rest ih =>
    obtain ⟨here, later⟩ := List.forall_mem_cons.mp held
    rw [fst_mergeMissing_cons, insertMissing_of_holds here]
    exact ih later

/-- Adding an entry to a collection before it is merged is adding it afterwards. -/
theorem mergeMissing_insertMissing (entries other : Entries α) (key : String) (value : α) :
    (entries.mergeMissing (other.insertMissing key value).1.toList).1 =
      ((entries.mergeMissing other.toList).1.insertMissing key value).1 := by
  cases held : other.holds key with
  | true =>
    obtain ⟨stored, member, same⟩ := holds_iff.mp held
    have merged : (entries.mergeMissing other.toList).1.holds stored = true :=
      holds_mergeMissing member
    obtain ⟨final, listed, alike⟩ := holds_iff.mp merged
    have kept : (entries.mergeMissing other.toList).1.holds key = true :=
      holds_iff.mpr ⟨final, listed, alike.trans same⟩
    rw [insertMissing_of_holds held, insertMissing_of_holds kept]
  | false =>
    have grown : (other.insertMissing key value).1.toList = other.toList ++ [(key, value)] := by
      simp [toList_insertMissing, held]
    rw [grown, fst_mergeMissing, fst_mergeMissing, List.foldl_append]
    rfl

/-- Merging a collection and then more entries is merging them with the collection first. -/
theorem mergeMissing_mergeMissing (first second : Entries α) (third : List (String × α)) :
    (first.mergeMissing (second.mergeMissing third).1.toList).1 =
      ((first.mergeMissing second.toList).1.mergeMissing third).1 := by
  induction third generalizing second with
  | nil => rfl
  | cons entry rest ih =>
    rw [fst_mergeMissing_cons, ih, mergeMissing_insertMissing, ← fst_mergeMissing_cons]

/-- An added entry is one more. -/
theorem size_insertMissing (entries : Entries α) (key : String) (value : α) :
    (entries.insertMissing key value).1.size =
      entries.size + (entries.insertMissing key value).2.toNat := by
  rw [size, toList_insertMissing, insertMissing_snd]
  cases entries.holds key <;> simp [size]

/-- Merging adds as many entries as it says. -/
theorem size_mergeMissing (entries : Entries α) (others : List (String × α)) :
    (entries.mergeMissing others).1.size = entries.size + (entries.mergeMissing others).2 := by
  have each : ∀ state : Entries α × Nat, state.1.size = entries.size + state.2 →
      ∀ entry ∈ others, (state.1.insertMissing entry.1 entry.2).1.size =
        entries.size + (state.2 + (state.1.insertMissing entry.1 entry.2).2.toNat) := by
    intro state counted entry _
    rw [size_insertMissing, counted, Nat.add_assoc]
  exact List.foldlRecOn
    (motive := fun state : Entries α × Nat => state.1.size = entries.size + state.2) others _ rfl
    each

/-! ## Look-ups -/

/-- An entry found is one of the entries, and its key equals the key asked for ignoring case. -/
theorem mem_toList_of_find? {entries : Entries α} {key : String} {entry : String × α}
    (found : entries.find? key = some entry) :
    entry ∈ entries.toList ∧ EqualIgnoringCase entry.1 key := by
  rcases Option.or_eq_some_iff.mp found with exact | ⟨_, alike⟩
  · have same : entry.1 = key := by simpa using List.find?_some exact
    exact ⟨List.mem_of_find?_eq_some exact, by rw [same]⟩
  · have passed := List.find?_some alike
    exact ⟨List.mem_of_find?_eq_some alike, of_decide_eq_true passed⟩

/-- A key found is one of the keys and equals the key asked for ignoring case. -/
theorem mem_keys_of_key? {entries : Entries α} {key stored : String}
    (found : entries.key? key = some stored) :
    stored ∈ entries.keys ∧ EqualIgnoringCase stored key := by
  obtain ⟨entry, there, rfl⟩ := Option.map_eq_some_iff.mp found
  obtain ⟨member, same⟩ := mem_toList_of_find? there
  exact ⟨List.mem_map_of_mem member, same⟩

/-- A key is found exactly when it is held. -/
theorem key?_eq_none_iff {entries : Entries α} {key : String} :
    entries.key? key = none ↔ entries.holds key = false := by
  rw [not_holds_iff]
  constructor
  · intro missing held member same
    obtain ⟨entry, present, rfl⟩ := List.mem_map.mp member
    simp only [key?, find?, Option.map_eq_none_iff, Option.or_eq_none_iff,
      List.find?_eq_none] at missing
    exact missing.2 entry present (by simpa using same)
  · intro apart
    cases found : entries.key? key with
    | none => rfl
    | some stored =>
      obtain ⟨member, same⟩ := mem_keys_of_key? found
      exact absurd same (apart stored member)

/-- One of the keys is found as it is spelled. -/
theorem key?_of_mem {entries : Entries α} {key : String} (member : key ∈ entries.keys) :
    entries.key? key = some key := by
  obtain ⟨entry, present, rfl⟩ := List.mem_map.mp member
  cases found : entries.toList.find? (·.1 == entry.1) with
  | none => simpa using List.find?_eq_none.mp found entry present
  | some other =>
    have same : other.1 = entry.1 := by simpa using List.find?_some found
    simp [key?, find?, found, same]

/-- An entry that was found is found again after the collection grew. -/
theorem Extends.find? {later earlier : Entries α} (grown : later.Extends earlier) {key : String}
    {entry : String × α} (found : earlier.find? key = some entry) :
    later.find? key = some entry := by
  obtain ⟨member, same⟩ := mem_toList_of_find? found
  obtain ⟨added, built, new, _⟩ := grown
  have absent : ∀ other ∈ added, ¬EqualIgnoringCase other.1 key := by
    intro other present alike
    have apart := not_holds_iff.mp (new other present)
    exact apart entry.1 (List.mem_map_of_mem member) (same.trans alike.symm)
  have exactAbsent : added.find? (·.1 == key) = none := by
    rw [List.find?_eq_none]
    intro other present alike
    have equal : other.1 = key := by simpa using alike
    exact absent other present (by rw [equal])
  have alikeAbsent : added.find? (fun other => decide (EqualIgnoringCase other.1 key)) = none := by
    rw [List.find?_eq_none]
    intro other present alike
    exact absent other present (of_decide_eq_true alike)
  rw [Entries.find?, built, List.find?_append, List.find?_append, exactAbsent, alikeAbsent,
    Option.or_none, Option.or_none]
  exact found

/-- A key that was found is found again after the collection grew. -/
theorem Extends.key? {later earlier : Entries α} (grown : later.Extends earlier)
    {key stored : String} (found : earlier.key? key = some stored) :
    later.key? key = some stored := by
  obtain ⟨entry, there, rfl⟩ := Option.map_eq_some_iff.mp found
  exact Option.map_eq_some_iff.mpr ⟨entry, grown.find? there, rfl⟩

/-- A value that was found is found again after the collection grew. -/
theorem Extends.value? {later earlier : Entries α} (grown : later.Extends earlier) {key : String}
    {value : α} (found : earlier.value? key = some value) : later.value? key = some value := by
  obtain ⟨entry, there, rfl⟩ := Option.map_eq_some_iff.mp found
  exact Option.map_eq_some_iff.mpr ⟨entry, grown.find? there, rfl⟩

end ApiWiring.Entries
