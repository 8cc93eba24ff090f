import ApiWiring.Proofs.Json.Values
import Mathlib.Data.List.Forall2

/-!
# Values that differ in the order of members only

Two values are alike when one becomes the other by putting the members of its objects in another
order, at any depth; the items of an array stay where they are. Two lists of members agree when they
have the same keys, with related values under each. As long as no key occurs twice, the order of
members does not show in what is found under their keys, and members with the same value under each
key are the same but for their order.
-/
namespace ApiWiring.Json

variable {α β : Type} {related : α → β → Prop}

/-! ## Members by key -/

/-- Among members with distinct keys, the value of a key is the one that it has in some member. -/
theorem mem_iff_lookup {members : List (String × α)} (distinct : (members.map (·.1)).Nodup)
    {key : String} {value : α} : (key, value) ∈ members ↔ members.lookup key = some value := by
  constructor
  · exact fun listed => lookup_of_once (once_of_nodup distinct key) listed
  · intro found
    obtain ⟨front, back, rfl, _⟩ := List.lookup_eq_some_iff.mp found
    exact List.mem_append_right _ (.head _)

/-- Members with distinct keys have the same values by key in any order. -/
theorem lookup_of_perm {members others : List (String × α)} (same : members.Perm others)
    (distinct : (members.map (·.1)).Nodup) (key : String) :
    members.lookup key = others.lookup key := by
  have distinctOthers : (others.map (·.1)).Nodup := (same.map _).nodup distinct
  refine Option.ext fun value => ?_
  rw [← mem_iff_lookup distinct, ← mem_iff_lookup distinctOthers, same.mem_iff]

/-- Members with distinct keys and the same values by key are the same but for their order. -/
theorem perm_of_lookup {members others : List (String × α)}
    (distinct : (members.map (·.1)).Nodup) (distinctOthers : (others.map (·.1)).Nodup)
    (same : ∀ key, members.lookup key = others.lookup key) : members.Perm others := by
  rw [List.perm_ext_iff_of_nodup distinct.of_map distinctOthers.of_map]
  intro ⟨key, value⟩
  rw [mem_iff_lookup distinct, mem_iff_lookup distinctOthers, same]

/-- The value of a key after each value was changed is its value changed. -/
theorem lookup_map (change : α → β) (members : List (String × α)) (key : String) :
    (members.map fun member => (member.1, change member.2)).lookup key =
      (members.lookup key).map change := by
  induction members with
  | nil => rfl
  | cons first rest ih =>
    rw [List.map_cons, List.lookup_cons, List.lookup_cons, ih]
    cases key == first.1 <;> rfl

/-- Whether two lists of members have the same keys, with related values under each of them. -/
def Agree (related : α → β → Prop) (members : List (String × α)) (others : List (String × β)) :
    Prop :=
  ∀ key, Option.Rel related (members.lookup key) (others.lookup key)

/-- Members agree on equal values when each key has the same value. -/
theorem agree_eq_iff {members others : List (String × α)} :
    Agree Eq members others ↔ ∀ key, members.lookup key = others.lookup key := by
  refine forall_congr' fun key => ?_
  cases members.lookup key <;> cases others.lookup key <;> simp

/-- Members agree when their values do that they are changed to. -/
theorem agree_map_iff {γ δ : Type} {compared : γ → δ → Prop} (change : α → γ) (alter : β → δ)
    {members : List (String × α)} {others : List (String × β)} :
    Agree compared (members.map fun member => (member.1, change member.2))
        (others.map fun member => (member.1, alter member.2)) ↔
      Agree (fun left right => compared (change left) (alter right)) members others := by
  refine forall_congr' fun key => ?_
  rw [lookup_map, lookup_map]
  cases members.lookup key <;> cases others.lookup key <;> simp

/-- Members that agree do so on what follows from their values being related. -/
theorem Agree.imp {compared : α → β → Prop} {members : List (String × α)}
    {others : List (String × β)} (agree : Agree related members others)
    (follows : ∀ key left right, members.lookup key = some left → others.lookup key = some right →
      related left right → compared left right) : Agree compared members others := by
  intro key
  have here := agree key
  cases left : members.lookup key <;> cases right : others.lookup key <;>
    simp only [left, right, Option.rel_some_some, Option.rel_none_none, Option.not_rel_some_none,
      Option.not_rel_none_some] at here ⊢
  exact follows key _ _ left right here

/-- Members that agree side by side agree key by key. -/
theorem agree_of_forall₂ {members : List (String × α)} {others : List (String × β)}
    (paired : List.Forall₂ (fun left right => left.1 = right.1 ∧ related left.2 right.2)
      members others) : Agree related members others := by
  intro asked
  induction paired with
  | nil => exact .none
  | @cons left right _ _ pair _ ih =>
    obtain ⟨key, value⟩ := left
    obtain ⟨_, other⟩ := right
    obtain ⟨rfl, here⟩ := pair
    rw [List.lookup_cons, List.lookup_cons]
    cases asked == key with
    | true => exact .some here
    | false => exact ih

/-- Members with distinct keys agree in another order with those that they agree with. -/
theorem Agree.of_perm {members front : List (String × α)} {others back : List (String × β)}
    (agree : Agree related members others) (left : members.Perm front) (right : others.Perm back)
    (distinct : (members.map (·.1)).Nodup) (distinctOthers : (others.map (·.1)).Nodup) :
    Agree related front back := by
  intro key
  rw [← lookup_of_perm left distinct, ← lookup_of_perm right distinctOthers]
  exact agree key

/-! ## Values -/

/-- Whether two values differ in the order of members only. -/
inductive Alike : Json → Json → Prop where
  | null : Alike .null .null
  | bool (value : Bool) : Alike (.bool value) (.bool value)
  | int (value : Int) : Alike (.int value) (.int value)
  | float (value : Binary64) : Alike (.float value) (.float value)
  | str (value : String) : Alike (.str value) (.str value)
  | arr {items others : List Json} (each : List.Forall₂ Alike items others) :
    Alike (.arr items) (.arr others)
  | obj {members others : List (String × Json)}
    (each : ∀ key, Option.Rel Alike (members.lookup key) (others.lookup key)) :
    Alike (.obj members) (.obj others)

/-- Texts are alike when they are the same. -/
theorem alike_str_iff {left right : String} : Alike (.str left) (.str right) ↔ left = right := by
  constructor
  · intro alike
    cases alike
    rfl
  · rintro rfl
    exact .str left

/-- Arrays are alike when their items are, one by one. -/
theorem alike_arr_iff {items others : List Json} :
    Alike (.arr items) (.arr others) ↔ List.Forall₂ Alike items others := by
  constructor
  · intro alike
    cases alike with
    | arr each => exact each
  · exact .arr

/-- Objects are alike when their members agree on values that are alike. -/
theorem alike_obj_iff {members others : List (String × Json)} :
    Alike (.obj members) (.obj others) ↔ Agree Alike members others := by
  constructor
  · intro alike
    cases alike with
    | obj each => exact each
  · exact .obj

end ApiWiring.Json
