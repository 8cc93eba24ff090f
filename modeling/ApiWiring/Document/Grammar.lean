import ApiWiring.Document.Request
import ApiWiring.Grammar.Basic

/-!
# Grammars and options in JSON
-/
namespace ApiWiring

open Json

/-- The JSON form of a kept value. -/
def Capture.toJson (capture : Capture) : Json :=
  .obj [("access_path", capture.path.toJson), ("variable_name", .str capture.variableName),
    ("primitive_type", ofLabelled capture.type)]

/-- A kept value, from JSON. -/
def Capture.ofJson? (json : Json) : Option Capture := do
  let fields ← fields? ["access_path", "variable_name", "primitive_type"] json
  let path ← fields.required "access_path" AccessPath.ofJson?
  let variableName ← fields.required "variable_name" string?
  let type ← fields.required "primitive_type" labelled?
  some { path, variableName, type }

/-- The JSON form of a request as it is sent. -/
def GrammarRequest.toJson (request : GrammarRequest) : Json :=
  .obj ([("id", request.id.toJson), ("path", ofList Payload.toJson request.path),
    ("query_parameters", ofList Parameter.toJson request.queryParameters),
    ("body_parameters", ofList Parameter.toJson request.bodyParameters)] ++
    if request.captures.isEmpty then []
    else [("response_parser", ofList Capture.toJson request.captures)])

/-- A request as it is sent, from JSON. -/
def GrammarRequest.ofJson? (json : Json) : Option GrammarRequest := do
  let fields ←
    fields? ["id", "path", "query_parameters", "body_parameters", "response_parser"] json
  let id ← fields.required "id" RequestId.ofJson?
  let path ← fields.required "path" (list? Payload.ofJson?)
  let queryParameters ← fields.required "query_parameters" (list? Parameter.ofJson?)
  let bodyParameters ← fields.required "body_parameters" (list? Parameter.ofJson?)
  let captures ← fields.withDefault "response_parser" [] (list? Capture.ofJson?)
  some { id, path, queryParameters, bodyParameters, captures }

/-- The JSON form of a grammar. -/
def Grammar.toJson (grammar : Grammar) : Json :=
  .obj [("requests", ofList GrammarRequest.toJson grammar.requests)]

/-- A grammar, from JSON. -/
def Grammar.ofJson? (json : Json) : Option Grammar := do
  let fields ← fields? ["requests"] json
  let requests ← fields.required "requests" (list? GrammarRequest.ofJson?)
  some { requests }

/-- The JSON form of options. -/
def Options.toJson (options : Options) : Json :=
  .obj [("resolve_query_dependencies", .bool options.resolveQuery),
    ("resolve_body_dependencies", .bool options.resolveBody),
    ("allow_get_producers", .bool options.allowGet), ("data_fuzzing", .bool options.allDeclared),
    ("naming_convention", ofOption ofLabelled options.convention),
    ("per_resource_dictionaries",
      .obj (options.endpointDictionaries.toList.map fun (endpoint, file) => (endpoint, .str file)))]

/-- Options, from JSON; one that is not given is as in `Options.standard`. -/
def Options.ofJson? (json : Json) : Option Options := do
  let fields ← fields? ["resolve_query_dependencies", "resolve_body_dependencies",
    "allow_get_producers", "data_fuzzing", "naming_convention", "per_resource_dictionaries"] json
  let resolveQuery ←
    fields.withDefault "resolve_query_dependencies" Options.standard.resolveQuery bool?
  let resolveBody ←
    fields.withDefault "resolve_body_dependencies" Options.standard.resolveBody bool?
  let allowGet ← fields.withDefault "allow_get_producers" Options.standard.allowGet bool?
  let allDeclared ← fields.withDefault "data_fuzzing" Options.standard.allDeclared bool?
  let convention ← fields.optional "naming_convention" labelled?
  let endpointDictionaries ← fields.withDefault "per_resource_dictionaries"
    Options.standard.endpointDictionaries fun json => (entries? string? json).map .ofList
  some { resolveQuery, resolveBody, allowGet, allDeclared, convention, endpointDictionaries }

end ApiWiring
