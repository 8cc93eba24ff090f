import ApiWiring.Proofs.Keyed.Keys
import Mathlib.Data.Finset.Sort

/-!
# Reading entries key by key

Sorted entries are determined by what is found under their keys, so whatever is read off them entry
by entry is determined by what it is key by key. Two collections that give the same for every key
give the same altogether, in the same order, also where one of them has keys with nothing to read
under them and the other does not have these keys at all.
-/
namespace ApiWiring.SortedEntries

variable {α β γ : Type}

/-- What is read off entries is what is read off what is found under their keys. -/
theorem flatMap_keys (entries : SortedEntries α) (read : String → α → List γ) :
    entries.keys.flatMap (fun key => (entries.get? key).elim [] (read key)) =
      entries.toList.flatMap fun entry => read entry.1 entry.2 := by
  rw [keys, List.flatMap_map, List.flatMap_def, List.flatMap_def]
  congr 1
  refine List.map_congr_left fun entry member => ?_
  rw [get?_of_mem member, Option.elim_some]

/-- Of ascending texts that hold the keys of entries, those that are keys are the keys in order. -/
theorem filter_mem_keys (entries : SortedEntries α) {texts : List String}
    (ascending : texts.Pairwise (· < ·)) (covers : ∀ key ∈ entries.keys, key ∈ texts) :
    (texts.filter fun text => decide (text ∈ entries.keys)) = entries.keys := by
  refine eq_of_ascending (ascending.filter _) entries.keys_ascending fun text => ?_
  rw [List.mem_filter, decide_eq_true_eq]
  exact ⟨And.right, fun member => ⟨covers text member, member⟩⟩

/-- What is read off entries is what is read off what is found under ascending texts that hold their
keys. -/
theorem flatMap_covering (entries : SortedEntries α) (read : String → α → List γ)
    {texts : List String} (ascending : texts.Pairwise (· < ·))
    (covers : ∀ key ∈ entries.keys, key ∈ texts) :
    texts.flatMap (fun text => (entries.get? text).elim [] (read text)) =
      entries.toList.flatMap fun entry => read entry.1 entry.2 := by
  rw [← flatMap_keys, ← filter_mem_keys entries ascending covers]
  clear ascending covers
  induction texts with
  | nil => rfl
  | cons text rest ih =>
    rw [List.flatMap_cons, ih, List.filter_cons]
    split
    · rw [List.flatMap_cons]
    · rename_i absent
      have missing : entries.get? text = none := by
        cases found : entries.get? text with
        | none => rfl
        | some value =>
          obtain ⟨front, back, built, _⟩ := List.lookup_eq_some_iff.mp found
          refine absurd ?_ absent
          rw [decide_eq_true_eq, keys, built]
          simp
      rw [missing]
      rfl

/-- What is read off two collections is the same if it is so for every key. -/
theorem flatMap_eq_of_agree (entries : SortedEntries α) (others : SortedEntries β)
    (read : String → α → List γ) (readOther : String → β → List γ)
    (agree : ∀ key, (others.get? key).elim [] (readOther key) =
      (entries.get? key).elim [] (read key)) :
    (others.toList.flatMap fun entry => readOther entry.1 entry.2) =
      entries.toList.flatMap fun entry => read entry.1 entry.2 := by
  let texts := (entries.keys.toFinset ∪ others.keys.toFinset).sort
  have ascending : texts.Pairwise (· < ·) := (Finset.sortedLT_sort _).pairwise
  rw [← flatMap_covering entries read ascending fun key member => by simp [texts, member],
    ← flatMap_covering others readOther ascending fun key member => by simp [texts, member]]
  simp only [agree]

/-- Where nothing is read off a value that stands for a missing one, what is read off the value
found under a key is what is read off this value or the one that stands for it. -/
theorem elim_get? (entries : SortedEntries α) (key : String) (absent : α) {read : α → List β}
    (nothing : read absent = []) :
    (entries.get? key).elim [] read = read ((entries.get? key).getD absent) := by
  cases entries.get? key with
  | none => exact nothing.symm
  | some value => rfl

/-- If under every key there are the values of another collection that pass a test, then so it is
for all values. -/
theorem allValues_eq_filter {entries others : SortedEntries (List α)} (keep : α → Bool)
    (agree : ∀ key, others.bucket key = (entries.bucket key).filter keep) :
    others.allValues = entries.allValues.filter keep := by
  rw [allValues, allValues, List.filter_flatMap]
  refine flatMap_eq_of_agree entries others (fun _ values => values.filter keep)
    (fun _ values => values) fun key => ?_
  rw [elim_get? others key [] rfl, elim_get? entries key [] rfl]
  exact agree key

/-- If under every key the same values pass a test, then so it is for all values. -/
theorem filter_allValues_congr {entries others : SortedEntries (List α)} (keep : α → Bool)
    (agree : ∀ key, (others.bucket key).filter keep = (entries.bucket key).filter keep) :
    others.allValues.filter keep = entries.allValues.filter keep := by
  rw [allValues, allValues, List.filter_flatMap, List.filter_flatMap]
  refine flatMap_eq_of_agree entries others (fun _ values => values.filter keep)
    (fun _ values => values.filter keep) fun key => ?_
  rw [elim_get? others key [] rfl, elim_get? entries key [] rfl]
  exact agree key

/-- The value of a key after each value was changed is its value changed. -/
theorem get?_mapValues (entries : SortedEntries α) (change : α → β) (key : String) :
    (entries.mapValues change).get? key = (entries.get? key).map change := by
  obtain ⟨list, ascending⟩ := entries
  simp only [mapValues, get?]
  clear ascending
  induction list with
  | nil => rfl
  | cons entry rest ih =>
    rw [List.map_cons, List.lookup_cons, List.lookup_cons]
    split
    · rfl
    · exact ih

end ApiWiring.SortedEntries
