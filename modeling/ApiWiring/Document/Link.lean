import ApiWiring.Api.Link
import ApiWiring.Document.Property

/-!
# Links in JSON

A record of a link gives its exceptions as one record or as a list of them. What could be either is
read as a whole first, so a part of it that stands for no value is refused even where nobody asks
for it.
-/
namespace ApiWiring

open Json

/-- The JSON form of a request identity. -/
def RequestId.toJson (id : RequestId) : Json :=
  .obj [("endpoint", .str id.endpoint), ("method", ofLabelled id.method)]

/-- A request identity, from JSON. -/
def RequestId.ofJson? (json : Json) : Option RequestId := do
  let fields ← fields? ["endpoint", "method"] json
  let endpoint ← fields.required "endpoint" string?
  let method ← fields.required "method" labelled?
  some { endpoint, method }

/-- The JSON form of an exception. -/
def ExceptionRecord.toJson (exception : ExceptionRecord) : Json :=
  .obj [("consumer_endpoint", .str exception.consumerEndpoint),
    ("consumer_method", .str exception.consumerMethod)]

/-- An exception, from JSON. -/
def ExceptionRecord.ofJson? (json : Json) : Option ExceptionRecord := do
  let fields ← fields? ["consumer_endpoint", "consumer_method"] json
  let consumerEndpoint ← fields.required "consumer_endpoint" string?
  let consumerMethod ← fields.required "consumer_method" string?
  some { consumerEndpoint, consumerMethod }

/-- The JSON form of the exceptions of a record. -/
def ExceptionClause.toJson : ExceptionClause → Json
  | .one exception => exception.toJson
  | .many exceptions => ofList ExceptionRecord.toJson exceptions

/-- The exceptions of a record, from JSON: one record if it can be read so, else a list. -/
def ExceptionClause.ofJson? (json : Json) : Option ExceptionClause := do
  let _ ← json.value?
  ((ExceptionRecord.ofJson? json).map .one).or ((list? ExceptionRecord.ofJson? json).map .many)

/-- The JSON form of a record. -/
def LinkRecord.toJson (record : LinkRecord) : Json :=
  .obj (member "producer_endpoint" .str record.producerEndpoint ++
    member "producer_method" .str record.producerMethod ++
    member "producer_resource_name" .str record.producerResourceName ++
    member "consumer_endpoint" .str record.consumerEndpoint ++
    member "consumer_method" .str record.consumerMethod ++
    member "consumer_param" .str record.consumerParam ++
    member "except" ExceptionClause.toJson record.except)

/-- A record, from JSON. -/
def LinkRecord.ofJson? (json : Json) : Option LinkRecord := do
  let fields ← fields? ["producer_endpoint", "producer_method", "producer_resource_name",
    "consumer_endpoint", "consumer_method", "consumer_param", "except"] json
  let producerEndpoint ← fields.optional "producer_endpoint" string?
  let producerMethod ← fields.optional "producer_method" string?
  let producerResourceName ← fields.optional "producer_resource_name" string?
  let consumerEndpoint ← fields.optional "consumer_endpoint" string?
  let consumerMethod ← fields.optional "consumer_method" string?
  let consumerParam ← fields.optional "consumer_param" string?
  let except ← fields.optional "except" ExceptionClause.ofJson?
  some { producerEndpoint, producerMethod, producerResourceName, consumerEndpoint,
         consumerMethod, consumerParam, except }

/-- The key under which a file may hold its records. -/
def LinkFile.key : String := "x-restler-global-annotations"

/-- The JSON form of a file. -/
def LinkFile.toJson : LinkFile → Json
  | .wrapped records => .obj [(LinkFile.key, ofList LinkRecord.toJson records)]
  | .bare records => ofList LinkRecord.toJson records

/-- A file, from JSON: an object with the records under their key, or a list of records. -/
def LinkFile.ofJson? (json : Json) : Option LinkFile := do
  let _ ← json.value?
  let wrapped := do
    let fields ← objectFields? [LinkFile.key] json
    fields.required LinkFile.key (list? LinkRecord.ofJson?)
  (wrapped.map .wrapped).or ((list? LinkRecord.ofJson? json).map .bare)

/-- The JSON form of a parameter of a link. -/
def LinkParameter.toJson : LinkParameter → Json
  | .named name => .obj [("name", .str name)]
  | .located path => .obj [("path", path.toJson)]

/-- A parameter of a link, from JSON. -/
def LinkParameter.ofJson? (json : Json) : Option LinkParameter :=
  match variant? json with
  | some ("name", contents) => (string? contents).map .named
  | some ("path", contents) => (AccessPath.ofJson? contents).map .located
  | _ => none

/-- The JSON form of a link. -/
def Link.toJson (link : Link) : Json :=
  .obj [("producer_id", link.producer.toJson),
    ("producer_parameter", link.producerParameter.toJson),
    ("consumer_id", ofOption RequestId.toJson link.consumer),
    ("consumer_parameter", link.consumerParameter.toJson),
    ("except", ofList RequestId.toJson link.except)]

/-- A link, from JSON. -/
def Link.ofJson? (json : Json) : Option Link := do
  let fields ← fields? ["producer_id", "producer_parameter", "consumer_id", "consumer_parameter",
    "except"] json
  let producer ← fields.required "producer_id" RequestId.ofJson?
  let producerParameter ← fields.required "producer_parameter" LinkParameter.ofJson?
  let consumer ← fields.optional "consumer_id" RequestId.ofJson?
  let consumerParameter ← fields.required "consumer_parameter" LinkParameter.ofJson?
  let except ← fields.required "except" (list? RequestId.ofJson?)
  some { producer, producerParameter, consumer, consumerParameter, except }

end ApiWiring
