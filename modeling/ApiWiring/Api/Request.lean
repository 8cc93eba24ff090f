import ApiWiring.Api.Link
import ApiWiring.Api.Property

/-!
# Requests

What is known of a request before its values are wired: its parameters by kind, its response and the
annotations written at it.
-/
namespace ApiWiring

/-- A named parameter with its property tree. -/
structure Parameter where
  /-- The name. -/
  name : String
  /-- The value, property by property. -/
  payload : PropertyTree
deriving Repr, Inhabited

/-- The parameters of one kind, from the declaration and, where there are any, from examples. -/
structure ParameterSet where
  /-- The declared parameters. -/
  declared : List Parameter
  /-- The parameters of an example. -/
  example? : Option (List Parameter)
deriving Repr, Inhabited

namespace ParameterSet

/-- No parameters. -/
def empty : ParameterSet := ⟨[], none⟩

/-- The parameters to send: the example's where there is one, unless all declared ones are asked
for. -/
def select (set : ParameterSet) (allDeclared : Bool) : List Parameter :=
  match set.example? with
  | some parameters => if allDeclared then set.declared else parameters
  | none => set.declared

end ParameterSet

/-- A request as it is declared. -/
structure Request where
  /-- Endpoint and method. -/
  id : RequestId
  /-- The parameters that stand for segments of the endpoint. -/
  pathParameters : List Parameter
  /-- The query parameters. -/
  queryParameters : ParameterSet
  /-- The parameters of the body. -/
  bodyParameters : ParameterSet
  /-- The response. -/
  response : Option PropertyTree
  /-- The annotations written at the request. -/
  links : List LinkRecord
deriving Repr, Inhabited

/-- The first path parameter of a name. -/
def Request.pathParameter? (request : Request) (name : String) : Option Parameter :=
  request.pathParameters.find? (·.name == name)

end ApiWiring
