import ApiWiring.Wiring.Role

/-!
# Failures

What stops a compilation. Each failure means that the input, or an earlier step, broke an assumption
the grammar rests on, so no part of a grammar is given out.
-/
namespace ApiWiring

/-- Why a compilation stops. -/
inductive Failure where
  /-- A consumer has a producer and gets a different one. -/
  | conflictingProducers (consumer : ConsumerKey) (existing attempted : Producer)
  /-- An array whose items are supplied has not exactly one form of item. -/
  | itemCardinality (request : RequestId) (path : AccessPath) (itemCount : Nat)
  /-- A path parameter is not a single value. -/
  | unsupportedPathParameter (request : RequestId) (name : String)
  /-- A value from the same body is asked for where there is no request path. -/
  | missingPath (request : RequestId) (path : AccessPath)
  /-- The dictionary holds a number without a canonical text. -/
  | noCanonicalText
deriving DecidableEq, Repr, Inhabited

/-- The wording of a failure. -/
def Failure.message : Failure → String
  | .conflictingProducers consumer existing attempted =>
    "conflicting producers for '" ++ consumer.path.pointer ++ "' of " ++ consumer.request.display ++
      ": " ++ existing.describe ++ " and " ++ attempted.describe
  | .itemCardinality request path itemCount =>
    "array '" ++ path.pointer ++ "' of " ++ request.display ++ " has " ++
      Nat.repr itemCount ++ " item templates, but a producer needs exactly one"
  | .unsupportedPathParameter request name =>
    "path parameter '" ++ name ++ "' of " ++ request.display ++ " is not a single value"
  | .missingPath request path =>
    "same-body value for '" ++ path.pointer ++ "' of " ++ request.display ++
      " requires the request path"
  | .noCanonicalText => "Failed to create canonical JSON string"

end ApiWiring
