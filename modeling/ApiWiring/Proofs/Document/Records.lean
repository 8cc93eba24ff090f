import ApiWiring.Json.Record
import ApiWiring.Proofs.Json.Values

/-!
# Reading back what is written

A way of writing values and a way of reading them belong together when whatever is written reads
back (`ReadsBack`). Texts, truth values, labels, lists and entries by key do. A record does when its
fields do: it is written as those of its fields that are there (`record`), under distinct names, and
a reader finds each field under its name, or finds that it was left out.
-/
namespace ApiWiring

/-- A finite type whose values differ in their labels. -/
class LawfulLabelled (α : Type) [Labelled α] : Prop where
  /-- A value is found by its label. -/
  ofLabel?_label : ∀ value : α, Labelled.ofLabel? (label value) = some value

namespace Json

variable {α : Type} {write : α → Json} {read : Json → Option α} {name : String}

/-- Whether what is written reads back. -/
def ReadsBack (write : α → Json) (read : Json → Option α) : Prop :=
  ∀ value, read (write value) = some value

/-- A text reads back. -/
@[simp] theorem string?_str (text : String) : string? (.str text) = some text := rfl

/-- A truth value reads back. -/
@[simp] theorem bool?_bool (value : Bool) : bool? (.bool value) = some value := rfl

/-- A label reads back. -/
@[simp] theorem labelled?_ofLabelled [Labelled α] [LawfulLabelled α] (value : α) :
    labelled? (ofLabelled value) = some value :=
  LawfulLabelled.ofLabel?_label value

/-- A list reads back when its items do. -/
theorem ReadsBack.ofList (items : ReadsBack write read) :
    ReadsBack (ofList write) (list? read) := by
  intro values
  show (values.map write).mapM read = some values
  induction values with
  | nil => rfl
  | cons value rest ih =>
    rw [List.map_cons, List.mapM_cons, items value, ih]
    rfl

/-- Values that are written under distinct keys read back. -/
theorem entries?_of_nodup (values : ReadsBack write read) {members : List (String × α)}
    (distinct : (members.map (·.1)).Nodup) :
    entries? read (.obj (members.map fun member => (member.1, write member.2))) = some members := by
  have each : (members.map fun member => (member.1, write member.2)).mapM
      (fun member => (read member.2).map (member.1, ·)) = some members := by
    clear distinct
    induction members with
    | nil => rfl
    | cons member rest ih =>
      rw [List.map_cons, List.mapM_cons, values member.2, ih]
      rfl
  show ((members.map fun member => (member.1, write member.2)).mapM
    (fun member => (read member.2).map (member.1, ·))).bind (fun entries =>
      some (distinctMembers entries)) = some members
  rw [each, Option.bind_some, distinctMembers_of_nodup distinct]

/-! ## Records -/

/-- The members of a record: those of its fields that are there. -/
def present (fields : List (String × Option Json)) : List (String × Json) :=
  fields.filterMap fun field => field.2.map (field.1, ·)

/-- A record with these fields, some of which may be left out. -/
def record (fields : List (String × Option Json)) : Json := .obj (present fields)

/-- A field that is written only when it is there is a field of a record. -/
theorem member_eq_present (name : String) (write : α → Json) (value : Option α) :
    member name write value = present [(name, value.map write)] := by
  cases value <;> rfl

/-- Fields that are written in two parts are fields of one record. -/
theorem present_append (front back : List (String × Option Json)) :
    present front ++ present back = present (front ++ back) := List.filterMap_append.symm

/-- The names of the fields that are there are names of the record, in order. -/
theorem sublist_present (fields : List (String × Option Json)) :
    ((present fields).map (·.1)).Sublist (fields.map (·.1)) := by
  induction fields with
  | nil => exact .slnil
  | cons field rest ih =>
    obtain ⟨name, value⟩ := field
    cases value with
    | none => exact ih.cons name
    | some json => exact ih.cons_cons name

/-- What holds of the fields of a record that are there holds of its members. -/
theorem forall_mem_present {holds : Json → Prop} {fields : List (String × Option Json)}
    (each : ∀ field ∈ fields, ∀ json, field.2 = some json → holds json) :
    ∀ member ∈ present fields, holds member.2 := by
  intro member listed
  obtain ⟨field, inside, given⟩ := List.mem_filterMap.mp listed
  obtain ⟨json, there, rfl⟩ := Option.map_eq_some_iff.mp given
  exact each field inside json there

/-- A record whose names are distinct is read as an object, whatever names are asked for. -/
theorem objectFields?_record {fields : List (String × Option Json)}
    (distinct : (fields.map (·.1)).Nodup) (names : List String) :
    objectFields? names (record fields) = some ⟨present fields⟩ := by
  have once : distinctFields names (present fields) = true := by
    refine List.all_eq_true.mpr fun name _ => decide_eq_true ?_
    exact once_of_nodup (distinct.sublist (sublist_present fields)) name
  exact if_pos once

/-- A record whose names are distinct is read as one. -/
theorem fields?_record {fields : List (String × Option Json)}
    (distinct : (fields.map (·.1)).Nodup) (names : List String) :
    fields? names (record fields) = some ⟨present fields⟩ := objectFields?_record distinct names

/-- What a record gives for a name, field by field. -/
@[simp] theorem get?_present_cons (field : String) (value : Option Json)
    (rest : List (String × Option Json)) (name : String) :
    (Fields.mk (present ((field, value) :: rest))).get? name =
      if name = field then value.or ((Fields.mk (present rest)).get? name)
      else (Fields.mk (present rest)).get? name := by
  cases value with
  | none =>
    rw [Option.none_or, ite_self]
    rfl
  | some json =>
    show ((field, json) :: present rest).lookup name = _
    by_cases same : name = field
    · rw [if_pos same, same, List.lookup_cons_self]
      rfl
    · rw [if_neg same, List.lookup_cons, beq_false_of_ne same]
      rfl

/-- A record without fields gives nothing. -/
@[simp] theorem get?_present_nil (name : String) : (Fields.mk (present [])).get? name = none := rfl

/-! ## Fields that may be left out -/

/-- The value of a field that may be missing or null, from what is given for the field. -/
def optionalValue? (read : Json → Option α) : Option Json → Option (Option α)
  | none => some none
  | some .null => some none
  | some json => (read json).map some

/-- What is given and not null is read. -/
theorem optionalValue?_of_ne {json : Json} (solid : json ≠ .null) :
    optionalValue? read (some json) = (read json).map some := by
  cases json with
  | null => exact absurd rfl solid
  | _ => rfl

/-- A field that may be missing or null is read from what is given for it. -/
theorem optional_eq (fields : Fields) (name : String) (read : Json → Option α) :
    fields.optional name read = optionalValue? read (fields.get? name) := by
  unfold Fields.optional optionalValue?
  split <;> simp_all

/-- A value that may be missing reads back unless some value is written as `null`. -/
theorem ReadsBack.optional (values : ReadsBack write read) (solid : ∀ value, write value ≠ .null)
    (value : Option α) : optionalValue? read (value.map write) = some value := by
  cases value with
  | none => rfl
  | some given =>
    rw [Option.map_some, optionalValue?_of_ne (solid given), values given, Option.map_some]

/-- A text that may be missing reads back. -/
@[simp] theorem optionalValue?_text (value : Option String) :
    optionalValue? string? (value.map .str) = some value :=
  ReadsBack.optional string?_str (fun _ => nofun) value

/-- A label that may be missing reads back. -/
@[simp] theorem optionalValue?_label [Labelled α] [LawfulLabelled α] (value : Option α) :
    optionalValue? labelled? (value.map ofLabelled) = some value :=
  ReadsBack.optional labelled?_ofLabelled (fun _ => nofun) value

/-- A field that is written only when its list has items is a field of a record. -/
def itemsField (write : α → Json) (values : List α) : Option Json :=
  if values.isEmpty then none else some (.arr (values.map write))

/-- A field with a default is read from what is given for it. -/
theorem withDefault_eq (fields : Fields) (name : String) (missing : α) (read : Json → Option α) :
    fields.withDefault name missing read = (fields.get? name).elim (some missing) read := by
  unfold Fields.withDefault
  cases fields.get? name <;> rfl

/-- A list that is written only when it has items reads back, the empty one by default. -/
theorem ReadsBack.items (items : ReadsBack write read) (values : List α) :
    (itemsField write values).elim (some []) (list? read) = some values := by
  cases values with
  | nil => rfl
  | cons value rest => exact items.ofList (value :: rest)

end Json

end ApiWiring
