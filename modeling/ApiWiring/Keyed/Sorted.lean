/-!
# Entries in the order of their keys

A list of keys and values in strictly ascending order of the keys, so each key occurs once and two
collections with the same entries are equal. One operation builds all others: `alter` sets the value
of a key from the value it had.
-/
namespace ApiWiring

/-- Entries in strictly ascending order of their keys. -/
structure SortedEntries (α : Type) where
  /-- Keys and values. -/
  toList : List (String × α)
  /-- The keys ascend. -/
  ascending : toList.Pairwise fun left right => left.1 < right.1
deriving DecidableEq, Repr

namespace SortedEntries

variable {α : Type}

/-- The list with the value of a key set from the value it had, the key at its place. -/
def alterList (key : String) (value : Option α → α) : List (String × α) → List (String × α)
  | [] => [(key, value none)]
  | (found, old) :: rest =>
    if key < found then (key, value none) :: (found, old) :: rest
    else if key = found then (found, value (some old)) :: rest
    else (found, old) :: alterList key value rest

/-- Setting a key adds no other key. -/
theorem mem_keys_alterList {key other : String} {value : Option α → α}
    {entries : List (String × α)} (member : other ∈ (alterList key value entries).map (·.1)) :
    other = key ∨ other ∈ entries.map (·.1) := by
  induction entries with
  | nil => simpa [alterList] using member
  | cons entry rest ih =>
    obtain ⟨found, old⟩ := entry
    simp only [alterList] at member
    split at member
    · simpa using member
    · split at member
      · right
        simpa using member
      · simp only [List.map_cons, List.mem_cons] at member ⊢
        rcases member with same | later
        · exact .inr (.inl same)
        · rcases ih later with same | old
          · exact .inl same
          · exact .inr (.inr old)

/-- Setting a key keeps the keys ascending. -/
theorem ascending_alterList {key : String} {value : Option α → α} {entries : List (String × α)}
    (ascending : entries.Pairwise fun left right => left.1 < right.1) :
    (alterList key value entries).Pairwise fun left right => left.1 < right.1 := by
  induction entries with
  | nil => simp [alterList]
  | cons entry rest ih =>
    obtain ⟨found, old⟩ := entry
    obtain ⟨above, later⟩ := List.pairwise_cons.mp ascending
    simp only [alterList]
    split
    · rename_i below
      refine List.pairwise_cons.mpr ⟨fun other member => ?_, ascending⟩
      rcases List.mem_cons.mp member with rfl | deeper
      · exact below
      · exact String.lt_trans below (above other deeper)
    · split
      · exact List.pairwise_cons.mpr ⟨above, later⟩
      · rename_i notBelow different
        refine List.pairwise_cons.mpr ⟨fun other member => ?_, ih later⟩
        have keyed : other.1 ∈ (alterList key value rest).map (·.1) :=
          List.mem_map.mpr ⟨other, member, rfl⟩
        rcases mem_keys_alterList keyed with same | held
        · simp only [same]
          rcases Decidable.em (found < key) with less | more
          · exact less
          · exact absurd (String.le_antisymm (String.not_lt.mp more) (String.not_lt.mp notBelow))
              different
        · obtain ⟨entry, member, same⟩ := List.mem_map.mp held
          exact same ▸ above entry member

/-- No entries. -/
def empty : SortedEntries α := ⟨[], .nil⟩

instance : Inhabited (SortedEntries α) := ⟨empty⟩

/-- The entries with the value of a key set from the value it had. -/
def alter (entries : SortedEntries α) (key : String) (value : Option α → α) : SortedEntries α :=
  ⟨alterList key value entries.toList, ascending_alterList entries.ascending⟩

/-- The entries with the value of a key set. -/
def insert (entries : SortedEntries α) (key : String) (value : α) : SortedEntries α :=
  entries.alter key fun _ => value

/-- The value of a key. -/
def get? (entries : SortedEntries α) (key : String) : Option α := entries.toList.lookup key

/-- The keys, ascending. -/
def keys (entries : SortedEntries α) : List String := entries.toList.map (·.1)

/-- Entries from a list; of a repeated key the last value counts. -/
def ofList (members : List (String × α)) : SortedEntries α :=
  members.foldl (fun entries (key, value) => entries.insert key value) empty

/-- The entries with each value changed. -/
def mapValues {β : Type} (entries : SortedEntries α) (f : α → β) : SortedEntries β where
  toList := entries.toList.map fun (key, value) => (key, f value)
  ascending := by
    rw [List.pairwise_map]
    exact entries.ascending

/-- The list kept under a key, empty when there is none. -/
def bucket (entries : SortedEntries (List α)) (key : String) : List α :=
  (entries.get? key).getD []

/-- The entries with one more value at the end of the list kept under a key. -/
def push (entries : SortedEntries (List α)) (key : String) (value : α) :
    SortedEntries (List α) :=
  entries.alter key fun bucket => bucket.getD [] ++ [value]

/-- The values of all lists, list by list. -/
def allValues (entries : SortedEntries (List α)) : List α := entries.toList.flatMap (·.2)

/-- After a key is set, it has the value set and every other key the value it had. -/
theorem get?_alter (entries : SortedEntries α) (key other : String) (value : Option α → α) :
    (entries.alter key value).get? other =
      if other = key then some (value (entries.get? key)) else entries.get? other := by
  obtain ⟨list, ascending⟩ := entries
  simp only [alter, get?]
  induction list with
  | nil =>
    by_cases same : other = key
    · simp [alterList, same]
    · have different : (other == key) = false := by simpa using same
      simp [alterList, List.lookup_cons, different, same]
  | cons entry rest ih =>
    obtain ⟨found, old⟩ := entry
    obtain ⟨above, later⟩ := List.pairwise_cons.mp ascending
    have ih := ih later
    simp only [alterList]
    split
    · rename_i below
      have missing : List.lookup key ((found, old) :: rest) = none := by
        rw [List.lookup_eq_none_iff]
        intro pair member
        simp only [ne_eq, bne_iff_ne]
        rcases List.mem_cons.mp member with rfl | deeper
        · intro same
          exact String.lt_irrefl _ (same ▸ below)
        · intro same
          exact String.lt_irrefl _ (same ▸ String.lt_trans below (above pair deeper))
      by_cases same : other = key
      · subst same
        simp [missing]
      · have different : (other == key) = false := by simpa using same
        rw [List.lookup_cons, different]
        simp [same]
    · split
      · rename_i equal
        subst equal
        by_cases same : other = key
        · subst same
          simp
        · have different : (other == key) = false := by simpa using same
          simp [List.lookup_cons, different, same]
      · rename_i different
        have apart : (key == found) = false := by simpa using different
        by_cases here : other = found
        · subst here
          have : ¬other = key := fun same => different same.symm
          simp [this]
        · have elsewhere : (other == found) = false := by simpa using here
          rw [List.lookup_cons, elsewhere, ih]
          simp [List.lookup_cons, apart, elsewhere]

/-- Pushing puts a value at the end of its list and leaves the others. -/
theorem bucket_push (entries : SortedEntries (List α)) (key other : String) (value : α) :
    (entries.push key value).bucket other =
      entries.bucket other ++ if other = key then [value] else [] := by
  simp only [bucket, push, get?_alter]
  split
  · rename_i same
    subst same
    simp
  · simp

end SortedEntries

end ApiWiring
