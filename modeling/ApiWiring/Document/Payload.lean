import ApiWiring.Api.Payload
import ApiWiring.Json.Record

/-!
# Payloads in JSON

A payload is a variant: an object whose only key says what kind of payload its contents are.
-/
namespace ApiWiring

open Json

/-- The JSON form of a dictionary entry that is sent. -/
def CustomPayload.toJson (entry : CustomPayload) : Json :=
  .obj [("payload_kind", ofLabelled entry.section_), ("primitive_type", ofLabelled entry.type),
    ("name", .str entry.name), ("is_object", .bool entry.isObject)]

/-- A dictionary entry that is sent, from JSON. -/
def CustomPayload.ofJson? (json : Json) : Option CustomPayload := do
  let fields ← fields? ["payload_kind", "primitive_type", "name", "is_object"] json
  let section_ ← fields.required "payload_kind" labelled?
  let type ← fields.required "primitive_type" labelled?
  let name ← fields.required "name" string?
  let isObject ← fields.withDefault "is_object" false bool?
  some { section_, type, name, isObject }

/-- The JSON form of a kept value. -/
def DynamicObject.toJson (object : DynamicObject) : Json :=
  .obj [("variable_name", .str object.variableName), ("primitive_type", ofLabelled object.type)]

/-- A kept value, from JSON. -/
def DynamicObject.ofJson? (json : Json) : Option DynamicObject := do
  let fields ← fields? ["variable_name", "primitive_type"] json
  let variableName ← fields.required "variable_name" string?
  let type ← fields.required "primitive_type" labelled?
  some { variableName, type }

namespace Payload

mutual

/-- The JSON form of a payload. -/
def toJson : Payload → Json
  | .fuzzable type seed =>
    .obj [("fuzzable", .obj [("primitive_type", ofLabelled type), ("default_value", .str seed)])]
  | .constant type value =>
    .obj [("constant", .obj [("primitive_type", ofLabelled type), ("value", .str value)])]
  | .custom entry => .obj [("custom", entry.toJson)]
  | .dynamic object => .obj [("dynamic_object", object.toJson)]
  | .parts payloads => .obj [("payload_parts", .arr (listToJson payloads))]

/-- The JSON forms of payloads in a row. -/
def listToJson : List Payload → List Json
  | [] => []
  | payload :: rest => toJson payload :: listToJson rest

end

/-- A payload without parts, from the label and the contents of its JSON form. -/
def singleOfJson? (label : String) (contents : Json) : Option Payload :=
  match label with
  | "fuzzable" => do
    let fields ← fields? ["primitive_type", "default_value"] contents
    let type ← fields.required "primitive_type" labelled?
    let seed ← fields.required "default_value" string?
    some (.fuzzable type seed)
  | "constant" => do
    let fields ← fields? ["primitive_type", "value"] contents
    let type ← fields.required "primitive_type" labelled?
    let value ← fields.required "value" string?
    some (.constant type value)
  | "custom" => (CustomPayload.ofJson? contents).map .custom
  | "dynamic_object" => (DynamicObject.ofJson? contents).map .dynamic
  | _ => none

mutual

/-- A payload, from JSON. -/
def ofJson? : Json → Option Payload
  | .obj [(label, .arr items)] =>
    if label = "payload_parts" then (listOfJson? items).map .parts
    else singleOfJson? label (.arr items)
  | .obj [(label, contents)] => singleOfJson? label contents
  | _ => none

/-- Payloads in a row, from JSON. -/
def listOfJson? : List Json → Option (List Payload)
  | [] => some []
  | item :: rest => do
    let payload ← ofJson? item
    let rest ← listOfJson? rest
    some (payload :: rest)

end

end Payload

end ApiWiring
