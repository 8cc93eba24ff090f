import ApiWiring.Document.Request
import ApiWiring.Proofs.Document.Records

/-!
# Payloads and property trees read back

Payloads and trees are read back constructor by constructor: what is written for a constructor has
its label as the only key, and its contents are those of a record or written by the induction. The
parts of a payload and the children of an inner node are read by functions that go along with the
one for the whole, so both are proved at once.
-/
namespace ApiWiring

open Json

instance : LawfulLabelled Method := ⟨fun value => by cases value <;> decide⟩

instance : LawfulLabelled PrimitiveType := ⟨fun value => by cases value <;> decide⟩

instance : LawfulLabelled DictionarySection := ⟨fun value => by cases value <;> decide⟩

instance : LawfulLabelled PropertyShape := ⟨fun value => by cases value <;> decide⟩

/-- A path reads back. -/
theorem AccessPath.readsBack : ReadsBack AccessPath.toJson AccessPath.ofJson? := by
  intro path
  have parts := ReadsBack.ofList string?_str path.parts
  rw [AccessPath.ofJson?, AccessPath.toJson, parts]
  rfl

/-! ## Payloads -/

/-- A dictionary entry that is sent reads back. -/
theorem CustomPayload.readsBack : ReadsBack CustomPayload.toJson CustomPayload.ofJson? := by
  intro entry
  have written : entry.toJson = record [("payload_kind", some (ofLabelled entry.section_)),
      ("primitive_type", some (ofLabelled entry.type)), ("name", some (.str entry.name)),
      ("is_object", some (.bool entry.isObject))] := rfl
  rw [written, ofJson?, fields?_record (by simp)]
  simp [Fields.required, withDefault_eq]

/-- A kept value reads back. -/
theorem DynamicObject.readsBack : ReadsBack DynamicObject.toJson DynamicObject.ofJson? := by
  intro object
  have written : object.toJson = record [("variable_name", some (.str object.variableName)),
      ("primitive_type", some (ofLabelled object.type))] := rfl
  rw [written, ofJson?, fields?_record (by simp)]
  simp [Fields.required]

namespace Payload

mutual

/-- A payload reads back. -/
theorem readsBack : ReadsBack toJson ofJson?
  | .fuzzable type seed => by
    show singleOfJson? "fuzzable" (record [("primitive_type", some (ofLabelled type)),
      ("default_value", some (.str seed))]) = _
    rw [singleOfJson?, fields?_record (by simp)]
    simp [Fields.required]
  | .constant type value => by
    show singleOfJson? "constant" (record [("primitive_type", some (ofLabelled type)),
      ("value", some (.str value))]) = _
    rw [singleOfJson?, fields?_record (by simp)]
    simp [Fields.required]
  | .custom entry => by
    show singleOfJson? "custom" entry.toJson = _
    rw [singleOfJson?, CustomPayload.readsBack, Option.map_some]
  | .dynamic object => by
    show singleOfJson? "dynamic_object" object.toJson = _
    rw [singleOfJson?, DynamicObject.readsBack, Option.map_some]
  | .parts payloads => by
    rw [toJson, ofJson?, if_pos rfl, readsBack_list payloads, Option.map_some]

/-- Payloads in a row read back. -/
theorem readsBack_list : ∀ payloads, listOfJson? (listToJson payloads) = some payloads
  | [] => rfl
  | payload :: rest => by
    rw [listToJson, listOfJson?, readsBack payload, readsBack_list rest]
    rfl

end

/-- No payload is written as `null`. -/
theorem toJson_ne_null (payload : Payload) : payload.toJson ≠ .null := by
  cases payload <;> simp [toJson]

end Payload

/-! ## Trees -/

/-- A leaf reads back. -/
theorem LeafProperty.readsBack : ReadsBack LeafProperty.toJson LeafProperty.ofJson? := by
  intro property
  have written : property.toJson = record [("name", some (.str property.name)),
      ("payload", some property.payload.toJson), ("is_required", some (.bool property.isRequired)),
      ("is_read_only", some (.bool property.isReadOnly))] := rfl
  rw [written, ofJson?, fields?_record (by simp)]
  simp [Fields.required, withDefault_eq, Payload.readsBack property.payload]

/-- The property of an inner node is written as a record. -/
theorem InnerProperty.toJson_eq (property : InnerProperty) :
    property.toJson = record [("name", some (.str property.name)),
      ("payload", property.override.map Payload.toJson),
      ("property_type", some (ofLabelled property.shape)),
      ("is_required", some (.bool property.isRequired)),
      ("is_read_only", some (.bool property.isReadOnly))] := by
  rw [toJson, member_eq_present]
  cases property.override <;> rfl

/-- The property of an inner node reads back. -/
theorem InnerProperty.readsBack : ReadsBack InnerProperty.toJson InnerProperty.ofJson? := by
  intro property
  have payload := Payload.readsBack.optional Payload.toJson_ne_null property.override
  rw [toJson_eq, ofJson?, fields?_record (by simp)]
  simp [withDefault_eq, optional_eq, payload]

namespace PropertyTree

mutual

/-- A tree reads back. -/
theorem readsBack : ReadsBack toJson ofJson?
  | .leaf property => by
    show (LeafProperty.ofJson? property.toJson).map leaf = _
    rw [LeafProperty.readsBack, Option.map_some]
  | .inner property children => by
    let given := [("property", some property.toJson),
      ("children", some (Json.arr (listToJson children)))]
    have fields : fields? ["property", "children"] (record given) = some ⟨present given⟩ :=
      fields?_record (by simp [given]) _
    have below : memberChildren? [("property", property.toJson),
        ("children", .arr (listToJson children))] = some children := by
      rw [InnerProperty.toJson_eq, record, memberChildren?, if_neg (by simp), memberChildren?,
        if_pos rfl, readsBack_list children]
      simp
    show (do
      let fields ← fields? ["property", "children"] (record given)
      let property ← fields.required "property" InnerProperty.ofJson?
      let children ← memberChildren? [("property", property.toJson),
        ("children", .arr (listToJson children))]
      some (inner property children)) = _
    rw [fields]
    simp [given, Fields.required, InnerProperty.readsBack property, below]

/-- Trees in a row read back. -/
theorem readsBack_list : ∀ trees, listOfJson? (listToJson trees) = some trees
  | [] => rfl
  | tree :: rest => by
    rw [listToJson, listOfJson?, readsBack tree, readsBack_list rest]
    rfl

end

/-- No tree is written as `null`. -/
theorem toJson_ne_null (tree : PropertyTree) : tree.toJson ≠ .null := by
  cases tree <;> simp [toJson]

end PropertyTree

/-! ## Parameters -/

/-- A parameter reads back. -/
theorem Parameter.readsBack : ReadsBack Parameter.toJson Parameter.ofJson? := by
  intro parameter
  have written : parameter.toJson = record [("name", some (.str parameter.name)),
      ("payload", some parameter.payload.toJson)] := rfl
  rw [written, ofJson?, fields?_record (by simp)]
  simp [Fields.required, PropertyTree.readsBack parameter.payload]

/-- The parameters of one kind read back, without an example and with an empty one. -/
theorem ParameterSet.readsBack : ReadsBack ParameterSet.toJson ParameterSet.ofJson? := by
  intro set
  have written : set.toJson = record [("schema", some (ofList Parameter.toJson set.declared)),
      ("example", set.example?.map (ofList Parameter.toJson))] := by
    rw [toJson, member_eq_present]
    cases set.example? <;> rfl
  have declared := Parameter.readsBack.ofList set.declared
  have examples := Parameter.readsBack.ofList.optional (fun _ => nofun) set.example?
  rw [written, ofJson?, fields?_record (by simp)]
  simp [withDefault_eq, optional_eq, declared, examples]

end ApiWiring
