import ApiWiring.Api.Endpoint
import ApiWiring.Api.Method

/-!
# Request identity

A request is known by its endpoint and its method.
-/
namespace ApiWiring

/-- Endpoint and method of a request. -/
structure RequestId where
  /-- The endpoint, with its parameters in braces. -/
  endpoint : String
  /-- The method. -/
  method : Method
deriving DecidableEq, Repr, Inhabited

namespace RequestId

/-- The text of an identity: the method and the endpoint. -/
def display (id : RequestId) : String := label id.method ++ " " ++ id.endpoint

/-- Identities are ordered by endpoint, then by the listing of the methods. -/
instance : Ord RequestId where
  compare left right :=
    (compare left.endpoint right.endpoint).then
      (compare left.method.position right.method.position)

end RequestId

end ApiWiring
