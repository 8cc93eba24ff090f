import ApiWiring.Proofs.Keyed.Buckets
import Mathlib.Data.List.Sort
import Mathlib.Data.String.Basic

/-!
# The keys of sorted entries

Which keys sorted entries have, and what of them is read in their order. Keys ascend, so lists of
keys are told apart by their members alone; and values that were pushed in turn are read back, for
any names that differ from each other, name by name as they were pushed.
-/
namespace ApiWiring

/-- Ascending texts are determined by which texts are among them. -/
theorem eq_of_ascending {left right : List String} (leftAscends : left.Pairwise (· < ·))
    (rightAscends : right.Pairwise (· < ·)) (same : ∀ text, text ∈ left ↔ text ∈ right) :
    left = right := by
  have reordered : left.Perm right :=
    (List.perm_ext_iff_of_nodup (leftAscends.imp ne_of_lt) (rightAscends.imp ne_of_lt)).mpr same
  exact reordered.eq_of_pairwise' leftAscends rightAscends

/-- The members of a list whose names are among some distinct names are, up to the order, those of
the first of these names, those of the second and so on. -/
theorem flatMap_filter_perm {α : Type} (name : α → String) (members : List α)
    {names : List String} (distinct : names.Nodup) :
    (names.flatMap fun text => members.filter (name · == text)).Perm
      (members.filter fun member => decide (name member ∈ names)) := by
  induction names with
  | nil => simp
  | cons first rest ih =>
    obtain ⟨fresh, distinct⟩ := List.nodup_cons.mp distinct
    have parted := List.filter_append_perm (name · == first)
      (members.filter fun member => decide (name member ∈ first :: rest))
    have here : ((members.filter fun member => decide (name member ∈ first :: rest)).filter
        (name · == first)) = members.filter (name · == first) := by
      rw [List.filter_filter]
      refine List.filter_congr fun member _ => ?_
      by_cases same : name member = first
      · simp [same]
      · simp [same]
    have later : ((members.filter fun member => decide (name member ∈ first :: rest)).filter
        fun member => !(name member == first)) =
          members.filter fun member => decide (name member ∈ rest) := by
      rw [List.filter_filter]
      refine List.filter_congr fun member _ => ?_
      by_cases same : name member = first
      · simp [same, fresh]
      · simp [same]
    rw [here, later] at parted
    exact ((ih distinct).append_left _).trans parted

namespace SortedEntries

variable {α : Type}

/-- The keys ascend. -/
theorem keys_ascending (entries : SortedEntries α) : entries.keys.Pairwise (· < ·) :=
  List.pairwise_map.mpr entries.ascending

/-- The keys are those under which something is found. -/
theorem mem_keys_iff {entries : SortedEntries α} {key : String} :
    key ∈ entries.keys ↔ (entries.get? key).isSome := by
  rw [keys, List.mem_map]
  constructor
  · rintro ⟨entry, member, rfl⟩
    rw [get?_of_mem member]
    rfl
  · intro there
    obtain ⟨value, found⟩ := Option.isSome_iff_exists.mp there
    obtain ⟨front, back, built, _⟩ := List.lookup_eq_some_iff.mp found
    exact ⟨(key, value), by simp [built], rfl⟩

/-- The entries are the keys with what is found under them. -/
theorem filterMap_keys (entries : SortedEntries α) :
    (entries.keys.filterMap fun key => (entries.get? key).map (key, ·)) = entries.toList := by
  rw [keys, List.filterMap_map]
  refine Eq.trans (List.filterMap_congr fun entry member => ?_) List.filterMap_some
  rw [Function.comp_apply, get?_of_mem member]
  rfl

/-- Entries are determined by what is found under their keys. -/
theorem eq_of_get? {left right : SortedEntries α}
    (same : ∀ key, left.get? key = right.get? key) : left = right := by
  have keys : left.keys = right.keys := by
    refine eq_of_ascending left.keys_ascending right.keys_ascending fun key => ?_
    rw [mem_keys_iff, mem_keys_iff, same]
  have listed : left.toList = right.toList := by
    rw [← filterMap_keys left, ← filterMap_keys right, keys]
    simp only [same]
  cases left
  cases listed
  rfl

/-- Setting a key to the value that it has changes nothing. -/
theorem alter_of_get? {entries : SortedEntries α} {key : String} {value : Option α → α} {old : α}
    (found : entries.get? key = some old) (same : value (some old) = old) :
    entries.alter key value = entries := by
  refine eq_of_get? fun other => ?_
  rw [get?_alter]
  split
  · rename_i here
    rw [here, found, same]
  · rfl

/-- A key that is set twice is set once, from the value to which it was set first. -/
theorem alter_alter (entries : SortedEntries α) (key : String) (first second : Option α → α) :
    (entries.alter key first).alter key second =
      entries.alter key fun old => second (some (first old)) := by
  refine eq_of_get? fun other => ?_
  rw [get?_alter, get?_alter, get?_alter, get?_alter]
  split
  · rw [if_pos rfl]
  · rfl

/-- Setting a key adds this key. -/
theorem mem_keys_alter {entries : SortedEntries α} {key other : String}
    {value : Option α → α} :
    other ∈ (entries.alter key value).keys ↔ other = key ∨ other ∈ entries.keys := by
  rw [mem_keys_iff, mem_keys_iff, get?_alter]
  by_cases same : other = key
  · simp [same]
  · simp [same]

/-- The keys after values were pushed in turn are those before and the ones of the values. -/
theorem mem_keys_foldl_push {key : α → String} {values : List α}
    {entries : SortedEntries (List α)} {name : String} :
    name ∈ (values.foldl (fun entries value => entries.push (key value) value) entries).keys ↔
      name ∈ entries.keys ∨ ∃ value ∈ values, key value = name := by
  induction values generalizing entries with
  | nil => simp
  | cons value rest ih =>
    rw [List.foldl_cons, ih, push, mem_keys_alter, @eq_comm _ name, @or_comm (key value = name),
      or_assoc]
    simp only [List.mem_cons, exists_eq_or_imp]

/-- Pushing adds one value. -/
theorem length_allValues_push (entries : SortedEntries (List α)) (key : String) (value : α) :
    (entries.push key value).allValues.length = entries.allValues.length + 1 := by
  have gained : (entries.push key value).allValues.Perm ([value] ++ entries.allValues) := by
    refine flatMap_alter_gains entries key _ (·.2) ?_
    cases entries.get? key with
    | none => exact .refl _
    | some bucket => exact List.perm_append_comm
  rw [gained.length_eq, List.length_append, List.length_singleton, Nat.add_comm]

/-- Pushing values in turn adds as many. -/
theorem length_allValues_foldl_push (key : α → String) (values : List α)
    (entries : SortedEntries (List α)) :
    (values.foldl (fun entries value => entries.push (key value) value) entries).allValues.length =
      entries.allValues.length + values.length := by
  induction values generalizing entries with
  | nil => rfl
  | cons value rest ih =>
    rw [List.foldl_cons, ih, length_allValues_push, List.length_cons]
    omega

end SortedEntries

end ApiWiring
