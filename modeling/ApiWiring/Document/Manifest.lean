import ApiWiring.Json.Record
import ApiWiring.Report.Manifest

/-!
# Manifests in JSON

A manifest is an object of objects of objects of lists: by endpoint, by method, by parameter kind.
-/
namespace ApiWiring

open Json

/-- The JSON form of an entry. -/
def ManifestEntry.toJson (entry : ManifestEntry) : Json :=
  .obj (member "producer_endpoint" .str entry.producerEndpoint ++
    member "producer_method" .str entry.producerMethod ++
    member "producer_resource_name" .str entry.producerResourceName ++
    [("consumer_param", .str entry.consumerParam)] ++
    member "producer_kind" ofLabelled entry.producerKind)

/-- An entry, from JSON. -/
def ManifestEntry.ofJson? (json : Json) : Option ManifestEntry := do
  let fields ← fields? ["producer_endpoint", "producer_method", "producer_resource_name",
    "consumer_param", "producer_kind"] json
  let producerEndpoint ← fields.optional "producer_endpoint" string?
  let producerMethod ← fields.optional "producer_method" string?
  let producerResourceName ← fields.optional "producer_resource_name" string?
  let consumerParam ← fields.required "consumer_param" string?
  let producerKind ← fields.optional "producer_kind" labelled?
  some { producerEndpoint, producerMethod, producerResourceName, consumerParam, producerKind }

/-- The JSON form of entries in the order of their keys. -/
def SortedEntries.toJson {α : Type} (write : α → Json) (entries : SortedEntries α) : Json :=
  .obj (entries.toList.map fun (key, value) => (key, write value))

/-- Entries in the order of their keys, from JSON. -/
def SortedEntries.ofJson? {α : Type} (read : Json → Option α) (json : Json) :
    Option (SortedEntries α) :=
  (entries? read json).map .ofList

/-- The JSON form of a manifest. -/
def Manifest.toJson (manifest : Manifest) : Json :=
  manifest.groups.toJson (SortedEntries.toJson (SortedEntries.toJson (ofList ManifestEntry.toJson)))

/-- A manifest, from JSON. -/
def Manifest.ofJson? (json : Json) : Option Manifest :=
  (SortedEntries.ofJson? (SortedEntries.ofJson?
    (SortedEntries.ofJson? (list? ManifestEntry.ofJson?))) json).map .mk

end ApiWiring
