import ApiWiring.Text.LetterCase

/-!
# Entries in the order they came

A list of keys and values, the keys distinct. A key is looked up to the letter first, then ignoring
the case of ASCII letters. Adding an entry is refused when some key equals the new one ignoring
case, so entries are only ever appended.
-/
namespace ApiWiring

open Text

/-- Entries in the order they came, no two with the same key. -/
structure Entries (α : Type) where
  /-- Keys and values. -/
  toList : List (String × α)
  /-- No key occurs twice. -/
  distinct : (toList.map (·.1)).Nodup
deriving DecidableEq, Repr

namespace Entries

variable {α : Type}

/-- No entries. -/
def empty : Entries α := ⟨[], by simp⟩

instance : Inhabited (Entries α) := ⟨empty⟩

/-- The keys in order. -/
def keys (entries : Entries α) : List String := entries.toList.map (·.1)

/-- The number of entries. -/
def size (entries : Entries α) : Nat := entries.toList.length

/-- The entry with exactly this key, else the first one whose key equals it ignoring case. -/
def find? (entries : Entries α) (key : String) : Option (String × α) :=
  (entries.toList.find? (·.1 == key)).or
    (entries.toList.find? fun entry => decide (EqualIgnoringCase entry.1 key))

/-- The value of an entry found. -/
def value? (entries : Entries α) (key : String) : Option α := (entries.find? key).map (·.2)

/-- The spelling of the key of an entry found. -/
def key? (entries : Entries α) (key : String) : Option String := (entries.find? key).map (·.1)

/-- Whether some key equals this one ignoring case. -/
def holds (entries : Entries α) (key : String) : Bool :=
  entries.keys.any fun held => decide (EqualIgnoringCase held key)

/-- A key that no key equals ignoring case is new. -/
theorem not_mem_keys_of_not_holds {entries : Entries α} {key : String}
    (missing : entries.holds key = false) : key ∉ entries.keys := by
  intro member
  have held : entries.holds key = true := by
    simp only [holds, List.any_eq_true, decide_eq_true_eq]
    exact ⟨key, member, rfl⟩
  simp [held] at missing

/-- The entries with one more at the end. -/
def append (entries : Entries α) (key : String) (value : α) (isNew : key ∉ entries.keys) :
    Entries α where
  toList := entries.toList ++ [(key, value)]
  distinct := by
    rw [List.map_append, List.nodup_append]
    refine ⟨entries.distinct, by simp, ?_⟩
    intro held member other same
    simp only [List.map_cons, List.map_nil, List.mem_singleton] at same
    subst same
    intro equal
    exact isNew (equal ▸ member)

/-- Adds an entry unless some key equals its key ignoring case; says whether it was added. -/
def insertMissing (entries : Entries α) (key : String) (value : α) : Entries α × Bool :=
  if missing : entries.holds key = false then
    (entries.append key value (not_mem_keys_of_not_holds missing), true)
  else (entries, false)

/-- Adds the entries whose keys are missing, in order; says how many were added. -/
def mergeMissing (entries : Entries α) (others : List (String × α)) : Entries α × Nat :=
  others.foldl
    (fun (entries, added) (key, value) =>
      let (entries, isNew) := entries.insertMissing key value
      (entries, added + isNew.toNat))
    (entries, 0)

/-- Entries from a list, a repeated key at its first place with its first value. -/
def ofList (members : List (String × α)) : Entries α :=
  members.foldl
    (fun entries (key, value) =>
      if isNew : key ∉ entries.keys then entries.append key value isNew else entries)
    empty

/-- Adding an entry puts it at the end. -/
theorem toList_insertMissing (entries : Entries α) (key : String) (value : α) :
    (entries.insertMissing key value).1.toList =
      entries.toList ++ if entries.holds key then [] else [(key, value)] := by
  simp only [insertMissing]
  split
  · rename_i missing
    simp [missing, append]
  · rename_i held
    simp [Bool.not_eq_false] at held
    simp [held]

/-- An entry is added exactly when no key equals its key ignoring case. -/
theorem insertMissing_snd (entries : Entries α) (key : String) (value : α) :
    (entries.insertMissing key value).2 = !entries.holds key := by
  simp only [insertMissing]
  split
  · rename_i missing
    simp [missing]
  · rename_i held
    simp [Bool.not_eq_false] at held
    simp [held]

end Entries

end ApiWiring
