import ApiWiring.Api.Link

/-!
# Warnings

What a compilation reports and goes on. Warnings about what a user wrote are input issues; they are
shown even when nothing else is.
-/
namespace ApiWiring

/-- What is reported. -/
inductive Warning where
  /-- A record is no link; `origin` says where it was written. -/
  | invalidLink (origin : String) (fault : LinkFault)
  /-- Several links apply to a consumer. -/
  | ambiguousLink (request : RequestId) (path : AccessPath) (count : Nat)
  /-- The producer of a link is not there. -/
  | producerNotFound (producer : RequestId) (parameter : LinkParameter) (request : RequestId)
      (path : AccessPath)
  /-- The response of a request is a single value without a name. -/
  | unnamedResponse (request : RequestId)
  /-- A parameter of the endpoint is not among the path parameters. -/
  | undeclaredPathParameter (request : RequestId) (name : String)
deriving DecidableEq, Repr, Inhabited

namespace Warning

/-- The wording of a warning. -/
def message : Warning → String
  | .invalidLink origin fault =>
    "Ignoring invalid annotation in " ++ origin ++ ": " ++ fault.message
  | .ambiguousLink request path count =>
    Nat.repr count ++ " annotations match '" ++ path.pointer ++ "' of " ++ request.display ++
      ", using the first"
  | .producerNotFound producer parameter request path =>
    "Producer '" ++ parameter.display ++ "' of " ++ producer.display ++ " not found for '" ++
      path.pointer ++ "' of " ++ request.display
  | .unnamedResponse request =>
    "Response of " ++ request.display ++ " has no named properties, no producers registered"
  | .undeclaredPathParameter request name =>
    "Path parameter '" ++ name ++ "' of " ++ request.display ++
      " is not declared, fuzzing it as a string"

/-- Whether a warning is about what a user wrote. -/
def isInputIssue : Warning → Bool
  | .invalidLink _ _ => true
  | .producerNotFound _ _ _ _ => true
  | _ => false

end Warning

end ApiWiring
