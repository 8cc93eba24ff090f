import ApiWiring.Api.Request
import ApiWiring.Document.Link

/-!
# Requests in JSON

The document a compilation starts from is a record with the list of requests.
-/
namespace ApiWiring

open Json

/-- The JSON form of a parameter. -/
def Parameter.toJson (parameter : Parameter) : Json :=
  .obj [("name", .str parameter.name), ("payload", parameter.payload.toJson)]

/-- A parameter, from JSON. -/
def Parameter.ofJson? (json : Json) : Option Parameter := do
  let fields ← fields? ["name", "payload"] json
  let name ← fields.required "name" string?
  let payload ← fields.required "payload" PropertyTree.ofJson?
  some { name, payload }

/-- The JSON form of the parameters of one kind. -/
def ParameterSet.toJson (set : ParameterSet) : Json :=
  .obj ([("schema", ofList Parameter.toJson set.declared)] ++
    member "example" (ofList Parameter.toJson) set.example?)

/-- The parameters of one kind, from JSON. -/
def ParameterSet.ofJson? (json : Json) : Option ParameterSet := do
  let fields ← fields? ["schema", "example"] json
  let declared ← fields.withDefault "schema" [] (list? Parameter.ofJson?)
  let example? ← fields.optional "example" (list? Parameter.ofJson?)
  some { declared, example? }

/-- The JSON form of a request. -/
def Request.toJson (request : Request) : Json :=
  .obj ([("id", request.id.toJson),
    ("path_parameters", ofList Parameter.toJson request.pathParameters),
    ("query_parameters", request.queryParameters.toJson),
    ("body_parameters", request.bodyParameters.toJson)] ++
    member "response" PropertyTree.toJson request.response ++
    if request.links.isEmpty then []
    else [("annotations", ofList LinkRecord.toJson request.links)])

/-- A request, from JSON. -/
def Request.ofJson? (json : Json) : Option Request := do
  let fields ← fields? ["id", "path_parameters", "query_parameters", "body_parameters", "response",
    "annotations"] json
  let id ← fields.required "id" RequestId.ofJson?
  let pathParameters ← fields.withDefault "path_parameters" [] (list? Parameter.ofJson?)
  let queryParameters ← fields.withDefault "query_parameters" .empty ParameterSet.ofJson?
  let bodyParameters ← fields.withDefault "body_parameters" .empty ParameterSet.ofJson?
  let response ← fields.optional "response" PropertyTree.ofJson?
  let links ← fields.withDefault "annotations" [] (list? LinkRecord.ofJson?)
  some { id, pathParameters, queryParameters, bodyParameters, response, links }

/-- The JSON form of the document with all requests. -/
def requestsToJson (requests : List Request) : Json :=
  .obj [("requests", ofList Request.toJson requests)]

/-- All requests, from the document with them. -/
def requestsOfJson? (json : Json) : Option (List Request) := do
  let fields ← fields? ["requests"] json
  fields.required "requests" (list? Request.ofJson?)

end ApiWiring
