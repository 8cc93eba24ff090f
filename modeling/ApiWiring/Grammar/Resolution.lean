import ApiWiring.Api.Dictionary
import ApiWiring.Api.Request
import ApiWiring.Report.Warning
import ApiWiring.Wiring.Basic

/-!
# Resolution of parameters

The wiring is put into the parameters of a request: every value with a producer is taken from it.
The nodes of a tree are gone through from the root; at the first node with a producer on the way
down, the producer's payload takes the place of what is below. A leaf keeps all but its payload, an
object becomes a leaf, an array keeps its form with the payload as its only item. Every dictionary
entry that a resolved parameter sends is added to the dictionary where it is missing.
-/
namespace ApiWiring

namespace Resolution

/-- The path of a parameter's root: its name for path and query parameters, the root of a body. -/
def rootOf (kind : ParameterKind) (name : String) : AccessPath :=
  match kind with
  | .path | .query => ⟨[name]⟩
  | .body => .root

/-- The address of the resource that a property of a body names: the path of the request, the
property's container and its unique name. -/
def siblingPayload (slot : Slot) (requestPath : List Payload) : Payload :=
  let container := slot.containerName?.getD ""
  .parts (requestPath ++ [.text ("/" ++ container ++ "/"),
    .custom (.uniqueName (container ++ "_" ++ slot.name))])

/-- What a producer sends to the value at a path. -/
def producerPayload (request : RequestId) (path : AccessPath)
    (requestPath : Option (List Payload)) : Producer → Except Failure Payload
  | .response slot => .ok (.dynamic ⟨slot.variableName, slot.type⟩)
  | .dictionary entry => .ok (.custom entry)
  | .sibling slot =>
    match requestPath with
    | some requestPath => .ok (siblingPayload slot requestPath)
    | none => .error (.missingPath request path)

/-- An inner node with a payload in the place of what is below it. -/
def collapsed (request : RequestId) (path : AccessPath) (property : InnerProperty)
    (childCount : Nat) (payload : Payload) : Except Failure PropertyTree :=
  match property.shape with
  | .array =>
    if childCount = 1 then .ok (.inner property [.leaf (.plain "" payload)])
    else .error (.itemCardinality request path childCount)
  | .object | .property =>
    .ok (.leaf ⟨property.name, payload, property.isRequired, property.isReadOnly⟩)

/-- Where the values of a parameter come from. -/
structure Source where
  /-- The wiring. -/
  wiring : Wiring
  /-- The request. -/
  request : RequestId
  /-- The kind of parameter. -/
  kind : ParameterKind
  /-- The resolved path of the request, where it is known. -/
  requestPath : Option (List Payload)
deriving Repr, Inhabited

/-- The producer of the value at a path. -/
def Source.producer? (source : Source) (path : AccessPath) : Option Producer :=
  source.wiring.producerFor? source.request source.kind path

/-- What the producer of the value at a path sends. -/
def Source.payload (source : Source) (path : AccessPath) (producer : Producer) :
    Except Failure Payload :=
  producerPayload source.request path source.requestPath producer

mutual

/-- A tree whose root is at a path, with every value taken from its producer. -/
def tree (source : Source) (path : AccessPath) : PropertyTree → Except Failure PropertyTree
  | .leaf property =>
    match source.producer? path with
    | some producer => do
      let payload ← source.payload path producer
      return .leaf { property with payload }
    | none => .ok (.leaf property)
  | .inner property children =>
    match source.producer? path with
    | some producer => do
      let payload ← source.payload path producer
      collapsed source.request path property children.length payload
    | none => do
      let children ← trees source path property children
      return .inner property children

/-- The children of a node, each resolved. -/
def trees (source : Source) (path : AccessPath) (property : InnerProperty) :
    List PropertyTree → Except Failure (List PropertyTree)
  | [] => .ok []
  | child :: rest => do
    let child ← tree source (path.child (property.component child.name)) child
    let rest ← trees source path property rest
    return child :: rest

end

/-- A parameter with every value taken from its producer. -/
def parameter (source : Source) (parameter : Parameter) : Except Failure Parameter := do
  let payload ← tree source (rootOf source.kind parameter.name) parameter.payload
  return { parameter with payload }

/-- A parameter resolved, or the failure that stopped it, with the dictionary after either. -/
def attempt (source : Source) (dictionary : Dictionary) (given : Parameter) :
    Except Failure Parameter × Dictionary :=
  match parameter source given with
  | .ok resolved => (.ok resolved, dictionary.registerAll resolved.payload.customPayloads)
  | .error failure => (.error failure, dictionary)

/-- A parameter resolved, with the dictionary after it. -/
def parameterWith (source : Source) (dictionary : Dictionary) (given : Parameter) :
    Except Failure (Parameter × Dictionary) :=
  let (resolved, dictionary) := attempt source dictionary given
  resolved.map (·, dictionary)

/-- Parameters resolved in turn, with the dictionary after them. -/
def parametersWith (source : Source) (dictionary : Dictionary) :
    List Parameter → Except Failure (List Parameter × Dictionary)
  | [] => .ok ([], dictionary)
  | parameter :: rest => do
    let (parameter, dictionary) ← parameterWith source dictionary parameter
    let (rest, dictionary) ← parametersWith source dictionary rest
    return (parameter :: rest, dictionary)

/-- A request path resolved, or the failure that stopped it, with the dictionary and the reports up
to there. -/
structure PathResult where
  /-- The parts of the path. -/
  parts : Except Failure (List Payload)
  /-- The dictionary after the parts. -/
  dictionary : Dictionary
  /-- What is to be reported. -/
  warnings : List Warning

/-- What is sent for the segment of a path parameter, with the dictionary after it. -/
def segmentWith (wiring : Wiring) (request : RequestId) (dictionary : Dictionary)
    (given : Parameter) : Except Failure Payload × Dictionary :=
  match attempt ⟨wiring, request, .path, none⟩ dictionary given with
  | (.error failure, dictionary) => (.error failure, dictionary)
  | (.ok resolved, dictionary) =>
    match resolved.payload with
    | .leaf property => (.ok property.payload, dictionary)
    | .inner _ _ => (.error (.unsupportedPathParameter request given.name), dictionary)

/-- The parts of the rest of a request's path. -/
def segmentsWith (wiring : Wiring) (request : Request) (dictionary : Dictionary) :
    List String → PathResult
  | [] => ⟨.ok [], dictionary, []⟩
  | segment :: rest =>
    match Endpoint.parameterName? segment with
    | none =>
      let result := segmentsWith wiring request dictionary rest
      { result with parts := result.parts.map ([.text "/", .text segment] ++ ·) }
    | some name =>
      match request.pathParameter? name with
      | none =>
        let result := segmentsWith wiring request dictionary rest
        { result with
          parts := result.parts.map ([.text "/", .ofType .string] ++ ·)
          warnings := .undeclaredPathParameter request.id name :: result.warnings }
      | some given =>
        match segmentWith wiring request.id dictionary given with
        | (.error failure, dictionary) => ⟨.error failure, dictionary, []⟩
        | (.ok payload, dictionary) =>
          let result := segmentsWith wiring request dictionary rest
          { result with parts := result.parts.map ([.text "/", payload] ++ ·) }

/-- The path of a request as payloads: a slash before every segment, then the segment itself or what
is sent for its parameter. A parameter that is not declared is a fuzzable string. -/
def path (wiring : Wiring) (request : Request) (dictionary : Dictionary) : PathResult :=
  segmentsWith wiring request dictionary (Text.segments request.id.endpoint)

end Resolution

end ApiWiring
