import ApiWiring.Json.Basic
import ApiWiring.Keyed.Entries
import ApiWiring.Keyed.Sorted
import Mathlib.Data.List.Pairwise

/-!
# Collections made of their own members

Members of an object, entries in the order they came and entries in the order of their keys are each
made of a list member by member. Where every member goes behind those before it, the list is made
into itself; so a collection that is given as a list again is the same collection.
-/
namespace ApiWiring

/-- If each member of a list goes behind the ones it is apart from, a list whose members are apart
from those before them is made into itself. -/
theorem foldl_of_apart {β : Type} {add : List β → β → List β} {apart : β → β → Prop}
    (behind : ∀ done member, (∀ earlier ∈ done, apart earlier member) →
      add done member = done ++ [member])
    (start rest : List β) (each : (start ++ rest).Pairwise apart) :
    rest.foldl add start = start ++ rest := by
  induction rest generalizing start with
  | nil => rw [List.foldl_nil, List.append_nil]
  | cons member rest ih =>
    have crossing := (List.pairwise_append.mp each).2.2
    have here : add start member = start ++ [member] :=
      behind start member fun earlier listed => crossing earlier listed member (.head _)
    have split : start ++ member :: rest = start ++ [member] ++ rest := by
      rw [List.append_assoc, List.singleton_append]
    rw [split] at each ⊢
    rw [List.foldl_cons, here, ih _ each]

/-- Members with distinct keys are apart from those before them. -/
theorem apart_of_nodup {α : Type} {members : List (String × α)}
    (distinct : (members.map (·.1)).Nodup) :
    members.Pairwise fun earlier later => earlier.1 ≠ later.1 :=
  List.pairwise_map.mp distinct

namespace Json

/-- A member with a new key is set at the end. -/
theorem setMember_of_new {α : Type} {members : List (String × α)} {key : String} {value : α}
    (isNew : ∀ earlier ∈ members, earlier.1 ≠ key) :
    setMember members key value = members ++ [(key, value)] := by
  induction members with
  | nil => rfl
  | cons first rest ih =>
    obtain ⟨here, later⟩ := List.forall_mem_cons.mp isNew
    rw [setMember, if_neg here, ih later, List.cons_append]

/-- Members with distinct keys stay as they are. -/
theorem distinctMembers_of_nodup {α : Type} {members : List (String × α)}
    (distinct : (members.map (·.1)).Nodup) : distinctMembers members = members := by
  have behind : ∀ (done : List (String × α)) (member : String × α),
      (∀ earlier ∈ done, earlier.1 ≠ member.1) →
        setMember done member.1 member.2 = done ++ [member] :=
    fun done member isNew => setMember_of_new isNew
  exact foldl_of_apart behind [] members (apart_of_nodup distinct)

end Json

namespace Entries

variable {α : Type}

/-- Entries are determined by their list. -/
theorem eq_of_toList {left right : Entries α} (same : left.toList = right.toList) :
    left = right := by
  cases left
  cases same
  rfl

/-- Entries from a list whose keys are distinct are this list. -/
theorem toList_ofList {members : List (String × α)} (distinct : (members.map (·.1)).Nodup) :
    (ofList members).toList = members := by
  let add (done : List (String × α)) (member : String × α) : List (String × α) :=
    if member.1 ∉ done.map (·.1) then done ++ [member] else done
  have listed : (ofList members).toList = members.foldl add [] := by
    refine (List.foldl_hom toList fun entries member => ?_).symm
    obtain ⟨key, value⟩ := member
    show (if key ∉ entries.keys then _ else _) = (dite (key ∉ entries.keys) _ _ : Entries α).toList
    split <;> rfl
  have behind : ∀ (done : List (String × α)) (member : String × α),
      (∀ earlier ∈ done, earlier.1 ≠ member.1) → add done member = done ++ [member] := by
    intro done member isNew
    refine if_pos fun inside => ?_
    obtain ⟨earlier, present, same⟩ := List.mem_map.mp inside
    exact isNew earlier present same
  rw [listed]
  exact foldl_of_apart behind [] members (apart_of_nodup distinct)

/-- Entries from their own list are the same. -/
theorem ofList_toList (entries : Entries α) : ofList entries.toList = entries :=
  eq_of_toList (toList_ofList entries.distinct)

end Entries

namespace SortedEntries

variable {α : Type}

/-- Entries are determined by their list. -/
theorem eq_of_toList {left right : SortedEntries α} (same : left.toList = right.toList) :
    left = right := by
  cases left
  cases same
  rfl

/-- Ascending keys are distinct. -/
theorem nodup_keys (entries : SortedEntries α) : (entries.toList.map (·.1)).Nodup := by
  refine List.pairwise_map.mpr (entries.ascending.imp fun {left right} below same => ?_)
  rw [same] at below
  exact String.lt_irrefl _ below

/-- A key above all others is set at the end. -/
theorem alterList_of_above {key : String} {value : Option α → α} {entries : List (String × α)}
    (above : ∀ earlier ∈ entries, earlier.1 < key) :
    alterList key value entries = entries ++ [(key, value none)] := by
  induction entries with
  | nil => rfl
  | cons first rest ih =>
    obtain ⟨here, later⟩ := List.forall_mem_cons.mp above
    have notBelow : ¬key < first.1 := fun below =>
      String.lt_irrefl _ (String.lt_trans below here)
    have different : key ≠ first.1 := by
      rintro rfl
      exact String.lt_irrefl _ here
    rw [alterList, if_neg notBelow, if_neg different, ih later, List.cons_append]

/-- Entries from their own list are the same. -/
theorem ofList_toList (entries : SortedEntries α) : ofList entries.toList = entries := by
  have listed : (ofList entries.toList).toList =
      entries.toList.foldl (fun done member => alterList member.1 (fun _ => member.2) done) [] :=
    (List.foldl_hom toList fun _ _ => rfl).symm
  have behind : ∀ (done : List (String × α)) (member : String × α),
      (∀ earlier ∈ done, earlier.1 < member.1) →
        alterList member.1 (fun _ => member.2) done = done ++ [member] :=
    fun done member above => alterList_of_above above
  have same : (ofList entries.toList).toList = entries.toList := by
    rw [listed]
    exact foldl_of_apart behind [] entries.toList entries.ascending
  exact eq_of_toList same

end SortedEntries

end ApiWiring
