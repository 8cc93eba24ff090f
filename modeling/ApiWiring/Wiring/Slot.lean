import ApiWiring.Api.Payload
import ApiWiring.Naming.Words

/-!
# Slots

A slot is a named value of a request: a parameter of its endpoint, a query parameter or a property
inside one, a property of its body or of its response. Slots are both what consumes values and what
produces them. The name of the type that a slot belongs to is read off its surroundings: the
segment before a path parameter, the nearest named property around a property, the endpoint for a
property at the top of a body.
-/
namespace ApiWiring

/-- Where in its request a slot is. -/
inductive Site where
  /-- In the endpoint, after these segments. -/
  | path (before : List String)
  /-- In a query parameter; the path begins with the parameter's name. -/
  | query (path : AccessPath)
  /-- In the body or the response; the path begins below the root. -/
  | body (path : AccessPath)
deriving DecidableEq, Repr, Inhabited

/-- A named value of a request. -/
structure Slot where
  /-- The request. -/
  request : RequestId
  /-- The name of the value. -/
  name : String
  /-- Where the value is. -/
  site : Site
  /-- The casing style of the API's names, when it is known. -/
  convention : Option NamingConvention
  /-- The type of the value. -/
  type : PrimitiveType
deriving DecidableEq, Repr, Inhabited

namespace Slot

/-- The slot of a path parameter. A parameter that the endpoint does not have is after all of its
segments. -/
def ofPathParameter (request : RequestId) (name : String) (type : PrimitiveType)
    (convention : Option NamingConvention) : Slot where
  request
  name
  site := .path ((Text.segments request.endpoint).takeWhile (!Endpoint.isParameter name ·))
  convention
  type

/-- The slot of a node of a query parameter or of a body, if the node has a name. -/
def ofNode? (request : RequestId) (kind : ParameterKind) (path : AccessPath)
    (type : PrimitiveType) (convention : Option NamingConvention) : Option Slot :=
  match kind, path.resourceName? with
  | .query, some name => some { request, name, site := .query path, convention, type }
  | .body, some name => some { request, name, site := .body path, convention, type }
  | _, _ => none

/-- The path that leads to the value. -/
def accessPath (slot : Slot) : AccessPath :=
  match slot.site with
  | .path _ => ⟨[slot.name]⟩
  | .query path => path
  | .body path => path

/-- The nearest name around the value: the segment before a path parameter unless it is a parameter
itself, or the closest named property. -/
def containerName? (slot : Slot) : Option String :=
  match slot.site with
  | .path before => before.getLast?.filter fun segment => (Endpoint.parameterName? segment).isNone
  | .query path => path.containerName?
  | .body path => path.containerName?

/-- The name of the type that the value belongs to: its container, and for a property at the top of
a body the last literal segment of the endpoint. -/
def typeName? (slot : Slot) : Option String :=
  slot.containerName?.or <| match slot.site with
    | .body _ => Endpoint.typeName? slot.request.endpoint
    | .path _ | .query _ => none

/-- The spellings of the type's name: as written, in the singular, and the last word in the
singular. -/
def candidateTypeNames (slot : Slot) : List String :=
  match slot.typeName? with
  | none => []
  | some type =>
    let lastWord := (Naming.words type).getLast?.map Text.Singular.ofWord
    (([type, Text.Singular.ofWord type] ++ lastWord.toList).filter (· != "")).eraseDups

/-- What a response would call the value. -/
def producerName? (slot : Slot) : Option String :=
  Naming.producerName? slot.name slot.candidateTypeNames slot.convention

/-- The type that the name of the value speaks of. -/
def impliedType? (slot : Slot) : Option String := Naming.impliedType? slot.name slot.convention

/-- The variable that keeps the value. -/
def variableName (slot : Slot) : String := Naming.variableName slot.request slot.accessPath

end Slot

end ApiWiring
