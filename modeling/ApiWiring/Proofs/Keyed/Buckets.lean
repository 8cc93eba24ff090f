import ApiWiring.Keyed.Sorted
import Mathlib.Data.List.Perm.Basic

/-!
# Buckets of sorted entries

Which values the lists kept under the keys hold together, before and after one of the lists is
changed. Keys ascend, so each list is the one found under its key. Up to the order, a collection is
the entry of one key and the entries of all others, and a change of that key leaves the others
alone; so whatever is read off entry by entry gains what the changed entry gains.
-/
namespace ApiWiring.SortedEntries

variable {α : Type}

/-- An entry is found under its key. -/
theorem get?_of_mem {entries : SortedEntries α} {key : String} {value : α}
    (member : (key, value) ∈ entries.toList) : entries.get? key = some value := by
  obtain ⟨list, ascending⟩ := entries
  simp only [get?] at member ⊢
  induction list with
  | nil => simp at member
  | cons entry rest ih =>
    obtain ⟨found, old⟩ := entry
    obtain ⟨above, later⟩ := List.pairwise_cons.mp ascending
    rcases List.mem_cons.mp member with same | deeper
    · cases same
      simp
    · have different : (key == found) = false := by
        have less : found < key := above _ deeper
        simpa using fun same => String.lt_irrefl _ (same ▸ less)
      rw [List.lookup_cons, different]
      exact ih later deeper

/-- The values of all lists are the values of the lists under the keys. -/
theorem mem_allValues_iff {entries : SortedEntries (List α)} {value : α} :
    value ∈ entries.allValues ↔ ∃ key, value ∈ entries.bucket key := by
  simp only [allValues, List.mem_flatMap]
  constructor
  · rintro ⟨⟨key, list⟩, member, inside⟩
    refine ⟨key, ?_⟩
    rw [bucket, get?_of_mem member]
    exact inside
  · rintro ⟨key, inside⟩
    cases found : entries.get? key with
    | none => simp [bucket, found] at inside
    | some list =>
      rw [bucket, found, Option.getD_some] at inside
      obtain ⟨front, back, built, _⟩ := List.lookup_eq_some_iff.mp found
      exact ⟨(key, list), by simp [built], inside⟩

/-- The list under a key after one list is changed. -/
theorem bucket_alter (entries : SortedEntries (List α)) (key other : String)
    (change : Option (List α) → List α) :
    (entries.alter key change).bucket other =
      if other = key then change (entries.get? key) else entries.bucket other := by
  simp only [bucket, get?_alter]
  split <;> rfl

/-- Values pushed in turn under their keys are at the ends of their lists, in their order. -/
theorem bucket_foldl_push (key : α → String) (values : List α)
    (entries : SortedEntries (List α)) (name : String) :
    (values.foldl (fun entries value => entries.push (key value) value) entries).bucket name =
      entries.bucket name ++ values.filter (key · == name) := by
  induction values generalizing entries with
  | nil => simp
  | cons value rest ih =>
    rw [List.foldl_cons, ih, bucket_push]
    by_cases here : key value = name
    · simp [here]
    · simp [here, Ne.symm here]

/-- A value that is there after one list is changed is in the changed list or was there before. -/
theorem mem_allValues_alter {entries : SortedEntries (List α)} {key : String}
    {change : Option (List α) → List α} {value : α}
    (member : value ∈ (entries.alter key change).allValues) :
    value ∈ change (entries.get? key) ∨ value ∈ entries.allValues := by
  obtain ⟨place, inside⟩ := mem_allValues_iff.mp member
  rw [bucket_alter] at inside
  split at inside
  · exact .inl inside
  · exact .inr (mem_allValues_iff.mpr ⟨place, inside⟩)

/-! ## Up to the order -/

/-- The entries of all keys but one. -/
def others (entries : SortedEntries α) (key : String) : List (String × α) :=
  entries.toList.filter fun entry => !(entry.1 == key)

/-- The entries of one key are the one found under it, if there is one. -/
theorem filter_key (entries : SortedEntries α) (key : String) :
    (entries.toList.filter fun entry => entry.1 == key) =
      (entries.get? key).elim [] fun value => [(key, value)] := by
  obtain ⟨list, ascending⟩ := entries
  simp only [get?]
  induction list with
  | nil => rfl
  | cons entry rest ih =>
    obtain ⟨found, old⟩ := entry
    obtain ⟨above, later⟩ := List.pairwise_cons.mp ascending
    by_cases here : key = found
    · have alone : (rest.filter fun entry => entry.1 == key) = [] := by
        rw [List.filter_eq_nil_iff]
        intro other member same
        have less : found < other.1 := above other member
        rw [← here, beq_iff_eq.mp same] at less
        exact String.lt_irrefl _ less
      subst here
      simp [alone]
    · have elsewhere : (key == found) = false := by simpa using here
      have passed : (found == key) = false := by simpa using Ne.symm here
      rw [List.filter_cons, passed, List.lookup_cons, elsewhere]
      exact ih later

/-- A change of one key leaves the entries of all others as they are. -/
theorem others_alter (entries : SortedEntries α) (key : String) (value : Option α → α) :
    (entries.alter key value).others key = entries.others key := by
  obtain ⟨list, ascending⟩ := entries
  simp only [others, alter]
  induction list with
  | nil => simp [alterList]
  | cons entry rest ih =>
    obtain ⟨found, old⟩ := entry
    have ih := ih (List.pairwise_cons.mp ascending).2
    simp only [alterList]
    split
    · simp
    · split
      · rename_i same
        simp [same]
      · rw [List.filter_cons, List.filter_cons, ih]

/-- What is read off all entries is what is read off the entry of a key and off the others. -/
theorem flatMap_perm {β : Type} (entries : SortedEntries α) (key : String)
    (f : String × α → List β) :
    (entries.toList.flatMap f).Perm
      (((entries.get? key).elim [] fun value => f (key, value)) ++
        (entries.others key).flatMap f) := by
  have parted := List.filter_append_perm (fun entry => entry.1 == key) entries.toList
  have read := parted.symm.flatMap_right f
  rw [List.flatMap_append, filter_key] at read
  have own : ((entries.get? key).elim [] fun value => [(key, value)]).flatMap f =
      (entries.get? key).elim [] fun value => f (key, value) := by
    cases entries.get? key <;> simp
  rwa [own] at read

/-- What is read off all entries after a change is what is read off the changed entry and off the
others. -/
theorem flatMap_alter_perm {β : Type} (entries : SortedEntries α) (key : String)
    (value : Option α → α) (f : String × α → List β) :
    ((entries.alter key value).toList.flatMap f).Perm
      (f (key, value (entries.get? key)) ++ (entries.others key).flatMap f) := by
  have read := flatMap_perm (entries.alter key value) key f
  rw [get?_alter, if_pos rfl, others_alter] at read
  exact read

/-- What is read off all entries gains in a change what is gained in reading the changed entry. -/
theorem flatMap_alter_gains {β : Type} (entries : SortedEntries α) (key : String)
    (value : Option α → α) (f : String × α → List β) {extra : List β}
    (gains : (f (key, value (entries.get? key))).Perm
      (extra ++ (entries.get? key).elim [] fun old => f (key, old))) :
    ((entries.alter key value).toList.flatMap f).Perm (extra ++ entries.toList.flatMap f) := by
  have changed := flatMap_alter_perm entries key value f
  have before := (flatMap_perm entries key f).append_left extra
  rw [← List.append_assoc] at before
  exact changed.trans ((gains.append_right _).trans before.symm)

end ApiWiring.SortedEntries
