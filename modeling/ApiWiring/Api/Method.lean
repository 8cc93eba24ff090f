import ApiWiring.Text.Label

/-!
# Request methods and parameter kinds
-/
namespace ApiWiring

/-- The method of a request. -/
inductive Method where
  | get | put | post | patch | delete | head | options | trace
deriving DecidableEq, Repr, Inhabited

instance : Labelled Method where
  all := [.get, .put, .post, .patch, .delete, .head, .options, .trace]
  label
    | .get => "GET"
    | .put => "PUT"
    | .post => "POST"
    | .patch => "PATCH"
    | .delete => "DELETE"
    | .head => "HEAD"
    | .options => "OPTIONS"
    | .trace => "TRACE"

namespace Method

/-- The place of a method in the listing of all methods. -/
def position (method : Method) : Nat := method.ctorIdx

/-- The place of a method in the life of a resource: what a step creates can feed later steps
only. -/
def lifecycleRank : Method → Nat
  | .post => 0
  | .put => 1
  | .patch => 2
  | .get => 3
  | .delete | .head | .options | .trace => 4

/-- Whether a request of this method creates what it answers with. -/
def creates (method : Method) : Bool := method == .post || method == .put

/-- Whether the response of a request of this method offers values. -/
def answers (method : Method) : Bool :=
  method == .post || method == .put || method == .patch || method == .get

end Method

/-- Where in a request a parameter is given. -/
inductive ParameterKind where
  | path | query | body
deriving DecidableEq, Repr, Inhabited

instance : Labelled ParameterKind where
  all := [.path, .query, .body]
  label
    | .path => "Path"
    | .query => "Query"
    | .body => "Body"

end ApiWiring
