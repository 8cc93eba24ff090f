import ApiWiring.Api.Dictionary
import ApiWiring.Json.Record

/-!
# Dictionaries in JSON

A dictionary is an object. Three keys hold the sections that are interpreted; all others are kept
with their values, in the order in which they came, and are written before the three.
-/
namespace ApiWiring

open Json

namespace Dictionary

/-- The key of a section in a document. -/
def documentKey : DictionarySection → String
  | .string => "restler_custom_payload"
  | .uuidSuffix => "restler_custom_payload_uuid4_suffix"
  | .header => "restler_custom_payload_header"

/-- The keys of the interpreted sections. -/
def interpretedKeys : List String := (Labelled.all : List DictionarySection).map documentKey

/-- The JSON form of the entries of a section. -/
def entriesToJson {α : Type} (write : α → Json) (entries : Entries α) : Json :=
  .obj (entries.toList.map fun (key, value) => (key, write value))

/-- The entries of a section, from JSON. -/
def entriesOfJson? {α : Type} (read : Json → Option α) (json : Json) : Option (Entries α) :=
  (entries? read json).map .ofList

/-- The JSON form of a dictionary. -/
def toJson (dictionary : Dictionary) : Json :=
  .obj (dictionary.uninterpreted.toList ++
    [(documentKey .string, entriesToJson (ofList .str) dictionary.custom),
      (documentKey .uuidSuffix, entriesToJson .str dictionary.uuidSuffix),
      (documentKey .header, entriesToJson (ofList .str) dictionary.header)])

/-- The members of an object that no interpreted section has, as values. -/
def uninterpretedOf? (json : Json) : Option (Entries Json) :=
  match json with
  | .obj members =>
    (members? (members.filter fun (key, _) => !interpretedKeys.contains key)).map fun members =>
      .ofList (distinctMembers members)
  | _ => none

/-- A dictionary, from JSON. -/
def ofJson? (json : Json) : Option Dictionary := do
  let fields ← objectFields? interpretedKeys json
  let uninterpreted ← uninterpretedOf? json
  let custom ←
    fields.withDefault (documentKey .string) .empty (entriesOfJson? (list? string?))
  let uuidSuffix ← fields.withDefault (documentKey .uuidSuffix) .empty (entriesOfJson? string?)
  let header ←
    fields.withDefault (documentKey .header) .empty (entriesOfJson? (list? string?))
  some { uninterpreted, custom, uuidSuffix, header }

end Dictionary

end ApiWiring
