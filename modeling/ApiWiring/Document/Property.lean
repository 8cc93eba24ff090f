import ApiWiring.Api.Property
import ApiWiring.Document.Payload

/-!
# Property trees in JSON

A tree is a variant: a leaf, or an inner node with its property and its children.
-/
namespace ApiWiring

open Json

/-- The JSON form of a path: its components. -/
def AccessPath.toJson (path : AccessPath) : Json := ofList .str path.parts

/-- A path, from JSON. -/
def AccessPath.ofJson? (json : Json) : Option AccessPath := (list? string? json).map .mk

/-- The JSON form of a leaf. -/
def LeafProperty.toJson (property : LeafProperty) : Json :=
  .obj [("name", .str property.name), ("payload", property.payload.toJson),
    ("is_required", .bool property.isRequired), ("is_read_only", .bool property.isReadOnly)]

/-- A leaf, from JSON. -/
def LeafProperty.ofJson? (json : Json) : Option LeafProperty := do
  let fields ← fields? ["name", "payload", "is_required", "is_read_only"] json
  let name ← fields.withDefault "name" "" string?
  let payload ← fields.required "payload" Payload.ofJson?
  let isRequired ← fields.withDefault "is_required" true bool?
  let isReadOnly ← fields.withDefault "is_read_only" false bool?
  some { name, payload, isRequired, isReadOnly }

/-- The JSON form of the property of an inner node. -/
def InnerProperty.toJson (property : InnerProperty) : Json :=
  .obj ([("name", .str property.name)] ++ member "payload" Payload.toJson property.override ++
    [("property_type", ofLabelled property.shape), ("is_required", .bool property.isRequired),
      ("is_read_only", .bool property.isReadOnly)])

/-- The property of an inner node, from JSON. -/
def InnerProperty.ofJson? (json : Json) : Option InnerProperty := do
  let fields ←
    fields? ["name", "payload", "property_type", "is_required", "is_read_only"] json
  let name ← fields.withDefault "name" "" string?
  let override ← fields.optional "payload" Payload.ofJson?
  let shape ← fields.withDefault "property_type" .object labelled?
  let isRequired ← fields.withDefault "is_required" true bool?
  let isReadOnly ← fields.withDefault "is_read_only" false bool?
  some { name, override, shape, isRequired, isReadOnly }

namespace PropertyTree

mutual

/-- The JSON form of a tree. -/
def toJson : PropertyTree → Json
  | .leaf property => .obj [("leaf", property.toJson)]
  | .inner property children =>
    .obj [("inner", .obj [("property", property.toJson), ("children", .arr (listToJson children))])]

/-- The JSON forms of trees in a row. -/
def listToJson : List PropertyTree → List Json
  | [] => []
  | tree :: rest => toJson tree :: listToJson rest

end

mutual

/-- A tree, from JSON. -/
def ofJson? : Json → Option PropertyTree
  | .obj [(label, .obj members)] =>
    if label = "inner" then do
      let fields ← fields? ["property", "children"] (.obj members)
      let property ← fields.required "property" InnerProperty.ofJson?
      let children ← memberChildren? members
      some (.inner property children)
    else if label = "leaf" then (LeafProperty.ofJson? (.obj members)).map .leaf
    else none
  | .obj [(label, .arr items)] =>
    if label = "inner" then do
      let fields ← fields? ["property", "children"] (.arr items)
      let property ← fields.required "property" InnerProperty.ofJson?
      let children ← itemChildren? items
      some (.inner property children)
    else if label = "leaf" then (LeafProperty.ofJson? (.arr items)).map .leaf
    else none
  | _ => none

/-- The children of an inner node given by its members; none when there is no such member. -/
def memberChildren? : List (String × Json) → Option (List PropertyTree)
  | [] => some []
  | (key, .arr items) :: rest =>
    if key = "children" then listOfJson? items else memberChildren? rest
  | (key, _) :: rest => if key = "children" then none else memberChildren? rest

/-- The children of an inner node given by its fields in order; none when they end before. -/
def itemChildren? : List Json → Option (List PropertyTree)
  | [_, .arr items] => listOfJson? items
  | [_, _] => none
  | _ => some []

/-- Trees in a row, from JSON. -/
def listOfJson? : List Json → Option (List PropertyTree)
  | [] => some []
  | item :: rest => do
    let tree ← ofJson? item
    let rest ← listOfJson? rest
    some (tree :: rest)

end

end PropertyTree

end ApiWiring
