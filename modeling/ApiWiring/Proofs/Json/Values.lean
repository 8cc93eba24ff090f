import ApiWiring.Json.Basic
import ApiWiring.Proofs.Keyed.Rebuilding
import Mathlib.Data.List.Nodup

/-!
# Values as a whole

What is read as a whole has no unreadable part and no object with a repeated key (`IsValue`). Such a
value is read as a whole without a change. What any JSON is as a whole can be told member by member:
of the members with some of the keys, and of the first member of a key that occurs once.
-/
namespace ApiWiring.Json

variable {α : Type}

/-! ## Distinct members -/

/-- The members with some of the keys, after one is set. -/
theorem filter_setMember (keep : String → Bool) (members : List (String × α)) (key : String)
    (value : α) :
    (setMember members key value).filter (fun member => keep member.1) =
      if keep key then setMember (members.filter fun member => keep member.1) key value
      else members.filter fun member => keep member.1 := by
  induction members with
  | nil => cases kept : keep key <;> simp [setMember, kept]
  | cons first rest ih =>
    obtain ⟨found, old⟩ := first
    by_cases same : found = key
    · subst same
      cases kept : keep found <;> simp [setMember, kept]
    · rw [setMember, if_neg same, List.filter_cons, List.filter_cons, ih]
      cases keep found <;> cases keep key <;> simp [setMember, same]

/-- The distinct members with some of the keys are the members with these keys, made distinct. -/
theorem filter_distinctMembers (keep : String → Bool) (members : List (String × α)) :
    (distinctMembers members).filter (fun member => keep member.1) =
      distinctMembers (members.filter fun member => keep member.1) := by
  have general : ∀ done : List (String × α),
      (members.foldl (fun done member => setMember done member.1 member.2) done).filter
          (fun member => keep member.1) =
        (members.filter fun member => keep member.1).foldl
          (fun done member => setMember done member.1 member.2)
          (done.filter fun member => keep member.1) := by
    induction members with
    | nil => exact fun _ => rfl
    | cons member rest ih =>
      intro done
      rw [List.foldl_cons, ih, filter_setMember, List.filter_cons]
      cases keep member.1 <;> simp
  exact general []

/-- The keys after a member is set. -/
theorem keys_setMember (members : List (String × α)) (key : String) (value : α) :
    (setMember members key value).map (·.1) =
      if key ∈ members.map (·.1) then members.map (·.1) else members.map (·.1) ++ [key] := by
  induction members with
  | nil => rfl
  | cons first rest ih =>
    obtain ⟨found, old⟩ := first
    by_cases same : found = key
    · simp [setMember, same]
    · have other : key ≠ found := fun equal => same equal.symm
      rw [setMember, if_neg same, List.map_cons, ih]
      by_cases later : key ∈ rest.map (·.1)
      · rw [if_pos later, if_pos (.tail _ later), List.map_cons]
      · have absent : key ∉ ((found, old) :: rest).map (·.1) := by
          rintro (_ | ⟨_, inRest⟩)
          · exact other rfl
          · exact later inRest
        rw [if_neg later, if_neg absent, List.map_cons, List.cons_append]

/-- Distinct members have distinct keys. -/
theorem nodup_distinctMembers (members : List (String × α)) :
    ((distinctMembers members).map (·.1)).Nodup := by
  have general : ∀ done : List (String × α), (done.map (·.1)).Nodup →
      ((members.foldl (fun done member => setMember done member.1 member.2) done).map
        (·.1)).Nodup := by
    induction members with
    | nil => exact fun _ distinct => distinct
    | cons member rest ih =>
      intro done distinct
      refine ih _ ?_
      rw [keys_setMember]
      split
      · exact distinct
      · rename_i absent
        refine List.nodup_append.mpr ⟨distinct, List.nodup_singleton _, ?_⟩
        rintro key inside other listed rfl
        exact absent (List.mem_singleton.mp listed ▸ inside)
  exact general [] List.nodup_nil

/-- A member set is the new one or an old one. -/
theorem mem_setMember {members : List (String × α)} {key : String} {value : α}
    {member : String × α} (listed : member ∈ setMember members key value) :
    member = (key, value) ∨ member ∈ members := by
  induction members with
  | nil => exact .inl (List.mem_singleton.mp listed)
  | cons first rest ih =>
    rw [setMember] at listed
    split at listed
    · rcases List.mem_cons.mp listed with same | later
      · exact .inl same
      · exact .inr (.tail _ later)
    · rcases List.mem_cons.mp listed with same | later
      · exact .inr (same ▸ .head _)
      · exact (ih later).imp_right (.tail _)

/-- Distinct members are among the members. -/
theorem mem_of_mem_distinctMembers {members : List (String × α)} {member : String × α}
    (listed : member ∈ distinctMembers members) : member ∈ members := by
  have general : ∀ done : List (String × α),
      member ∈ members.foldl (fun done member => setMember done member.1 member.2) done →
        member ∈ done ∨ member ∈ members := by
    clear listed
    induction members with
    | nil => exact fun _ inside => .inl inside
    | cons first rest ih =>
      intro done inside
      rcases ih _ inside with set | later
      · rcases mem_setMember set with rfl | old
        · exact .inr (.head _)
        · exact .inl old
      · exact .inr (.tail _ later)
  exact (general [] listed).resolve_left List.not_mem_nil

/-- The first value of a key is the first among the members with this key. -/
theorem lookup_eq_head? (members : List (String × α)) (key : String) :
    members.lookup key = (members.filter fun member => member.1 == key).head?.map (·.2) := by
  induction members with
  | nil => rfl
  | cons first rest ih =>
    obtain ⟨found, value⟩ := first
    by_cases same : key = found
    · subst same
      simp
    · have other : (found == key) = false := beq_false_of_ne fun equal => same equal.symm
      rw [List.lookup_cons, beq_false_of_ne same, ih, List.filter_cons, other]
      rfl

/-- A key occurs among members as often as it does among their keys. -/
theorem countP_key (members : List (String × α)) (key : String) :
    members.countP (·.1 == key) = (members.map (·.1)).count key := by
  rw [List.count, List.countP_map]
  rfl

/-- Among members with distinct keys, a key occurs at most once. -/
theorem once_of_nodup {members : List (String × α)} (distinct : (members.map (·.1)).Nodup)
    (key : String) : members.countP (·.1 == key) ≤ 1 := by
  rw [countP_key]
  exact List.nodup_iff_count_le_one.mp distinct key

/-- If a key occurs at most once, the members with this key are none or one. -/
theorem filter_of_once {members : List (String × α)} {key : String}
    (once : members.countP (·.1 == key) ≤ 1) :
    (members.filter fun member => member.1 == key) = [] ∨
      ∃ member, (members.filter fun member => member.1 == key) = [member] := by
  rw [List.countP_eq_length_filter] at once
  cases kept : members.filter fun member => member.1 == key with
  | nil => exact .inl rfl
  | cons first rest =>
    have alone : rest = [] := by
      rw [kept, List.length_cons] at once
      exact List.length_eq_zero_iff.mp (by omega)
    exact .inr ⟨first, by rw [alone]⟩

/-- A member whose key occurs at most once has the value of its key. -/
theorem lookup_of_once {members : List (String × α)} {member : String × α}
    (once : members.countP (·.1 == member.1) ≤ 1) (listed : member ∈ members) :
    members.lookup member.1 = some member.2 := by
  have inside : member ∈ members.filter fun other => other.1 == member.1 :=
    List.mem_filter.mpr ⟨listed, beq_self_eq_true _⟩
  rw [lookup_eq_head?]
  rcases filter_of_once once with none | ⟨other, alone⟩
  · rw [none] at inside
    exact absurd inside List.not_mem_nil
  · rw [alone] at inside ⊢
    rw [List.mem_singleton.mp inside]
    rfl

/-- A key that occurs at most once has the same value among distinct members. -/
theorem lookup_distinctMembers {members : List (String × α)} {key : String}
    (once : members.countP (·.1 == key) ≤ 1) :
    (distinctMembers members).lookup key = members.lookup key := by
  rw [lookup_eq_head?, lookup_eq_head?, filter_distinctMembers (· == key)]
  rcases filter_of_once once with none | ⟨other, alone⟩
  · rw [none]
    rfl
  · rw [alone]
    rfl

/-! ## Members as values -/

/-- The members with some of the keys are as values what they are among all. -/
theorem members?_filter (keep : String → Bool) {members values : List (String × Json)}
    (read : members? members = some values) :
    members? (members.filter fun member => keep member.1) =
      some (values.filter fun member => keep member.1) := by
  induction members generalizing values with
  | nil =>
    cases read
    rfl
  | cons member rest ih =>
    obtain ⟨key, json⟩ := member
    simp only [members?, Option.bind_eq_bind, Option.bind_eq_some_iff, Option.some.injEq] at read
    obtain ⟨value, here, others, later, rfl⟩ := read
    rw [List.filter_cons, List.filter_cons]
    cases keep key with
    | true => simp [members?, here, ih later]
    | false => exact ih later

/-- The keys of members stay when they are read as values. -/
theorem keys_of_members? {members values : List (String × Json)}
    (read : members? members = some values) : values.map (·.1) = members.map (·.1) := by
  induction members generalizing values with
  | nil =>
    cases read
    rfl
  | cons member rest ih =>
    obtain ⟨key, json⟩ := member
    simp only [members?, Option.bind_eq_bind, Option.bind_eq_some_iff, Option.some.injEq] at read
    obtain ⟨value, here, others, later, rfl⟩ := read
    rw [List.map_cons, List.map_cons, ih later]

/-- The first value of a key is read as a value. -/
theorem lookup_of_members? {members values : List (String × Json)}
    (read : members? members = some values) (key : String) :
    values.lookup key = (members.lookup key).bind value? := by
  induction members generalizing values with
  | nil =>
    cases read
    rfl
  | cons member rest ih =>
    obtain ⟨found, json⟩ := member
    simp only [members?, Option.bind_eq_bind, Option.bind_eq_some_iff, Option.some.injEq] at read
    obtain ⟨value, here, others, later, rfl⟩ := read
    rw [List.lookup_cons, List.lookup_cons, ih later]
    cases key == found with
    | true => exact here.symm
    | false => rfl

/-- Members are read as values when the value of each of them is. -/
theorem members?_isSome_iff (members : List (String × Json)) :
    (members? members).isSome ↔ ∀ member ∈ members, member.2.value?.isSome := by
  induction members with
  | nil => simp [members?]
  | cons member rest ih =>
    obtain ⟨key, json⟩ := member
    rw [List.forall_mem_cons, ← ih, members?]
    cases json.value? <;> cases members? rest <;> simp

/-! ## Values -/

/-- Whether JSON is a value as a whole: nothing in it is unreadable, and no object in it has a key
twice. -/
inductive IsValue : Json → Prop where
  | null : IsValue .null
  | bool (value : Bool) : IsValue (.bool value)
  | int (value : Int) : IsValue (.int value)
  | float (value : Binary64) : IsValue (.float value)
  | str (value : String) : IsValue (.str value)
  | arr (items : List Json) (each : ∀ item ∈ items, IsValue item) : IsValue (.arr items)
  | obj (members : List (String × Json)) (distinct : (members.map (·.1)).Nodup)
    (each : ∀ member ∈ members, IsValue member.2) : IsValue (.obj members)

/-- Items that are read as themselves are read so together. -/
theorem items?_of_each {items : List Json} (each : ∀ item ∈ items, item.value? = some item) :
    items? items = some items := by
  induction items with
  | nil => rfl
  | cons item rest ih =>
    obtain ⟨here, later⟩ := List.forall_mem_cons.mp each
    rw [items?, here, ih later]
    rfl

/-- Members whose values are read as themselves are read so together. -/
theorem members?_of_each {members : List (String × Json)}
    (each : ∀ member ∈ members, member.2.value? = some member.2) :
    members? members = some members := by
  induction members with
  | nil => rfl
  | cons member rest ih =>
    obtain ⟨here, later⟩ := List.forall_mem_cons.mp each
    rw [members?, here, ih later]
    rfl

/-- A value as a whole is read as itself. -/
theorem IsValue.value?_eq {json : Json} (isValue : json.IsValue) : json.value? = some json := by
  induction isValue with
  | null | bool | int | float | str => rfl
  | arr items _ ih => rw [value?, items?_of_each ih, Option.map_some]
  | obj members distinct _ ih =>
    rw [value?, members?_of_each ih, Option.map_some, distinctMembers_of_nodup distinct]

mutual

/-- What is read as a whole is a value. -/
theorem isValue_of_value? : ∀ {json value : Json}, json.value? = some value → value.IsValue
  | .null, _, read => by
    cases read
    exact .null
  | .bool _, _, read => by
    cases read
    exact .bool _
  | .int _, _, read => by
    cases read
    exact .int _
  | .float _, _, read => by
    cases read
    exact .float _
  | .str _, _, read => by
    cases read
    exact .str _
  | .arr items, _, read => by
    obtain ⟨values, found, rfl⟩ := Option.map_eq_some_iff.mp read
    exact .arr values (isValue_of_items? found)
  | .obj members, _, read => by
    obtain ⟨values, found, rfl⟩ := Option.map_eq_some_iff.mp read
    refine .obj _ (nodup_distinctMembers values) fun member listed => ?_
    exact isValue_of_members? found member (mem_of_mem_distinctMembers listed)
  | .unreadable, _, read => by cases read

/-- Items that are read as values are values. -/
theorem isValue_of_items? : ∀ {items values : List Json}, items? items = some values →
    ∀ value ∈ values, value.IsValue
  | [], _, read => by
    cases read
    exact fun _ none => absurd none List.not_mem_nil
  | item :: rest, _, read => by
    simp only [items?, Option.bind_eq_bind, Option.bind_eq_some_iff, Option.some.injEq] at read
    obtain ⟨value, here, others, later, rfl⟩ := read
    exact List.forall_mem_cons.mpr ⟨isValue_of_value? here, isValue_of_items? later⟩

/-- Members that are read as values have values. -/
theorem isValue_of_members? : ∀ {members values : List (String × Json)},
    members? members = some values → ∀ member ∈ values, member.2.IsValue
  | [], _, read => by
    cases read
    exact fun _ none => absurd none List.not_mem_nil
  | (key, json) :: rest, _, read => by
    simp only [members?, Option.bind_eq_bind, Option.bind_eq_some_iff, Option.some.injEq] at read
    obtain ⟨value, here, others, later, rfl⟩ := read
    exact List.forall_mem_cons.mpr ⟨isValue_of_value? here, isValue_of_members? later⟩

end

end ApiWiring.Json
