import Mathlib.Data.List.Nodup

/-!
# Shelves

Lists kept under keys of any kind, in no order of the keys. A value is put at the end of the list of
its key, which is begun if there is none. Nothing but the lists and the number of all values is
read, so the order of the keys does not matter.
-/
namespace ApiWiring

/-- Lists kept under keys. -/
structure Shelves (κ α : Type) where
  /-- The keys with their lists. -/
  toList : List (κ × List α)
deriving Repr

namespace Shelves

variable {κ α : Type} [DecidableEq κ]

/-- No lists. -/
def empty : Shelves κ α := ⟨[]⟩

/-- The list with one more value at the end of the list of a key. -/
def putList (key : κ) (value : α) : List (κ × List α) → List (κ × List α)
  | [] => [(key, [value])]
  | (found, values) :: rest =>
    if key = found then (found, values ++ [value]) :: rest
    else (found, values) :: putList key value rest

/-- The shelves with one more value at the end of the list of a key. -/
def put (shelves : Shelves κ α) (key : κ) (value : α) : Shelves κ α :=
  ⟨putList key value shelves.toList⟩

/-- The list of a key, empty if there is none. -/
def bucket (shelves : Shelves κ α) (key : κ) : List α := (shelves.toList.lookup key).getD []

/-- The number of values of all lists. -/
def count (shelves : Shelves κ α) : Nat := (shelves.toList.flatMap (·.2)).length

/-- A value that is put is behind those of its key, and the other lists are as they were. -/
theorem bucket_put (shelves : Shelves κ α) (key other : κ) (value : α) :
    (shelves.put key value).bucket other =
      shelves.bucket other ++ if other = key then [value] else [] := by
  obtain ⟨list⟩ := shelves
  simp only [bucket, put]
  induction list with
  | nil =>
    by_cases same : other = key
    · simp [putList, same]
    · have different : (other == key) = false := beq_eq_false_iff_ne.mpr same
      simp [putList, List.lookup_cons, different, same]
  | cons entry rest ih =>
    obtain ⟨found, values⟩ := entry
    simp only [putList]
    split
    · rename_i own
      subst own
      by_cases same : other = key
      · simp [same]
      · have different : (other == key) = false := beq_eq_false_iff_ne.mpr same
        simp [List.lookup_cons, different, same]
    · rename_i apart
      by_cases here : other = found
      · have different : ¬other = key := fun same => apart (same.symm.trans here)
        simp [here, Ne.symm apart]
      · have elsewhere : (other == found) = false := beq_eq_false_iff_ne.mpr here
        rw [List.lookup_cons, List.lookup_cons, elsewhere]
        exact ih

/-- Putting a value adds one. -/
theorem count_put (shelves : Shelves κ α) (key : κ) (value : α) :
    (shelves.put key value).count = shelves.count + 1 := by
  obtain ⟨list⟩ := shelves
  simp only [count, put]
  induction list with
  | nil => rfl
  | cons entry rest ih =>
    obtain ⟨found, values⟩ := entry
    simp only [putList]
    split
    · simp only [List.flatMap_cons, List.length_append, List.length_singleton]
      omega
    · simp only [List.flatMap_cons, List.length_append, ih]
      omega

/-- A value that is put under several distinct keys is behind those of each, once. -/
theorem bucket_foldl_put {keys : List κ} (distinct : keys.Nodup) (shelves : Shelves κ α)
    (value : α) (other : κ) :
    (keys.foldl (fun shelves key => shelves.put key value) shelves).bucket other =
      shelves.bucket other ++ if other ∈ keys then [value] else [] := by
  induction keys generalizing shelves with
  | nil => simp
  | cons key rest ih =>
    obtain ⟨fresh, distinct⟩ := List.nodup_cons.mp distinct
    rw [List.foldl_cons, ih distinct, bucket_put]
    by_cases here : other = key
    · subst here
      simp [fresh]
    · simp [here]

end Shelves

end ApiWiring
