import ApiWiring.Api.Request
import ApiWiring.Report.Failure
import ApiWiring.Wiring.Requested

/-!
# What a request offers and needs

A survey of a request lists the consumers among its parameters, in the order path, query, body and
in the order of their trees; the slots of its response; and those properties of its body that may
supply others of the same body. Options leave out kinds of parameters and choose between declared
and exemplary ones.
-/
namespace ApiWiring

/-- What is to be inferred. -/
structure Options where
  /-- Whether query parameters are consumers. -/
  resolveQuery : Bool
  /-- Whether body properties are consumers. -/
  resolveBody : Bool
  /-- Whether responses to reading requests produce. -/
  allowGet : Bool
  /-- Whether all declared parameters are taken where there is an example. -/
  allDeclared : Bool
  /-- The casing style of the API's names; guessed from each name where there is none. -/
  convention : Option NamingConvention
  /-- Dictionary files for single endpoints. -/
  endpointDictionaries : SortedEntries String
deriving Repr

namespace Options

/-- The options where nothing is said. -/
def standard : Options := ⟨true, true, false, false, none, .empty⟩

instance : Inhabited Options := ⟨standard⟩

end Options

/-- What a request offers and needs. -/
structure Survey where
  /-- The request. -/
  request : RequestId
  /-- The slots that need a value. -/
  consumers : List Consumer
  /-- The slots of the response. -/
  responses : List Slot
  /-- The slots of the body that may supply others of the body. -/
  siblings : List Slot
  /-- What is to be reported. -/
  warnings : List Warning
deriving Repr, Inhabited

namespace Survey

/-- The slots of the named nodes of a tree, parents first. -/
def slotsOf (request : RequestId) (kind : ParameterKind) (tree : PropertyTree) (root : AccessPath)
    (convention : Option NamingConvention) : List Slot :=
  (tree.visits root).filterMap fun (path, node) =>
    Slot.ofNode? request kind path node.type convention

/-- The slot of a path parameter, which must be a single value. -/
def pathSlot (options : Options) (request : RequestId) (parameter : Parameter) :
    Except Failure Slot :=
  match parameter.payload with
  | .leaf property =>
    .ok (Slot.ofPathParameter request parameter.name property.payload.type options.convention)
  | .inner _ _ => .error (.unsupportedPathParameter request parameter.name)

/-- The slots of the query parameters that are consumers. -/
def querySlots (options : Options) (request : Request) : List Slot :=
  if options.resolveQuery then
    (request.queryParameters.select options.allDeclared).flatMap fun parameter =>
      slotsOf request.id .query parameter.payload ⟨[parameter.name]⟩ options.convention
  else []

/-- The slots of the body properties that are consumers. -/
def bodySlots (options : Options) (request : Request) : List Slot :=
  if options.resolveBody then
    (request.bodyParameters.select options.allDeclared).flatMap fun parameter =>
      slotsOf request.id .body parameter.payload .root options.convention
  else []

/-- Whether a body property may supply others: it is called `name` and has a named property
around. -/
def mayBeSibling (slot : Slot) : Bool := slot.name == "name" && slot.containerName?.isSome

/-- The slots of the response, if requests of this method produce. -/
def responseSlots (options : Options) (request : Request) : List Slot :=
  match request.response with
  | some (.inner property children) =>
    if request.id.method.answers then
      slotsOf request.id .body (.inner property children) .root options.convention
    else []
  | _ => []

/-- The report on a response that is a single value. -/
def responseWarnings (request : Request) : List Warning :=
  match request.response with
  | some (.leaf _) => if request.id.method.answers then [.unnamedResponse request.id] else []
  | _ => []

/-- The survey of a request, given the links that hold everywhere. -/
def ofRequest (options : Options) (everywhere : List Link) (request : Request) :
    Except Failure Survey := do
  let (atRequest, faults) :=
    Link.ofRecords request.links (some request.id) ("annotations of " ++ request.id.display)
  let pathSlots ← request.pathParameters.mapM (pathSlot options request.id)
  let bodySlots := bodySlots options request
  let slots := pathSlots.map (·, ParameterKind.path) ++
    (querySlots options request).map (·, .query) ++ bodySlots.map (·, .body)
  let found := slots.map fun (slot, _) => Link.find? atRequest everywhere slot
  return {
    request := request.id
    consumers := (slots.zip found).map fun ((slot, kind), link, _) => ⟨slot, kind, link⟩
    responses := responseSlots options request
    siblings := bodySlots.filter mayBeSibling
    warnings := faults ++ found.flatMap (·.2) ++ responseWarnings request }

end Survey

end ApiWiring
