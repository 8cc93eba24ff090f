import ApiWiring.Grammar.Resolution
import ApiWiring.Wiring.Passes

/-!
# The grammar

A grammar says of every request what is sent, part by part, and which values of its response are
kept. A value is kept when some consumer is supplied by it; the values kept from a response are in
the order of their paths, each once. Of several requests with one identity the first keeps them.
-/
namespace ApiWiring

/-- A value of a response that is kept. -/
structure Capture where
  /-- The path to the value. -/
  path : AccessPath
  /-- The variable that keeps it. -/
  variableName : String
  /-- The type of the value. -/
  type : PrimitiveType
deriving DecidableEq, Repr, Inhabited

/-- A request as it is sent. -/
structure GrammarRequest where
  /-- Endpoint and method. -/
  id : RequestId
  /-- The path, part by part. -/
  path : List Payload
  /-- The query parameters. -/
  queryParameters : List Parameter
  /-- The parameters of the body. -/
  bodyParameters : List Parameter
  /-- The values kept from the response. -/
  captures : List Capture
deriving Repr, Inhabited

/-- All requests as they are sent. -/
structure Grammar where
  /-- The requests, in the order in which they were declared. -/
  requests : List GrammarRequest
deriving Repr, Inhabited

namespace Grammar

/-- The slot of a response that supplies a connection's consumer. -/
def responseSlot? (connection : Connection) : Option Slot :=
  match connection.producer? with
  | some (.response slot) => some slot
  | _ => none

/-- The slots of a request's response that supply consumers, in the order of the wiring, the first
of each path. -/
def suppliers (wiring : Wiring) (request : RequestId) : List Slot :=
  ((wiring.connections.filterMap responseSlot?).filter (·.request == request)).eraseDupsBy
    fun left right => left.accessPath == right.accessPath

/-- The values kept from a request's response. -/
def captures (wiring : Wiring) (request : RequestId) : List Capture :=
  ((suppliers wiring request).map fun slot =>
    { path := slot.accessPath, variableName := slot.variableName, type := slot.type }).mergeSort
      fun left right => left.path.notAfter right.path

/-- The work of a grammar up to a request. -/
structure Progress where
  /-- The requests done, the last first. -/
  done : List GrammarRequest
  /-- The dictionary. -/
  dictionary : Dictionary
  /-- What is to be reported. -/
  warnings : List Warning
deriving Repr, Inhabited

/-- Takes up one request. -/
def takeUp (wiring : Wiring) (options : Options) (progress : Progress) (request : Request) :
    Except Failure Progress := do
  let path := Resolution.path wiring request progress.dictionary
  let parts ← path.parts
  let (queryParameters, dictionary) ←
    Resolution.parametersWith ⟨wiring, request.id, .query, some parts⟩ path.dictionary
      (request.queryParameters.select options.allDeclared)
  let (bodyParameters, dictionary) ←
    Resolution.parametersWith ⟨wiring, request.id, .body, some parts⟩ dictionary
      (request.bodyParameters.select options.allDeclared)
  let captures :=
    if progress.done.any (·.id == request.id) then [] else captures wiring request.id
  return {
    done := { id := request.id, path := parts, queryParameters, bodyParameters, captures } ::
      progress.done
    dictionary
    warnings := progress.warnings ++ path.warnings }

/-- The grammar of the requests of a setting, with the dictionary and the reports after it. -/
def build (requests : List Request) (options : Options) (wired : Wired) :
    Except Failure (Grammar × Dictionary × List Warning) := do
  let progress ← requests.foldlM (takeUp wired.wiring options)
    { done := [], dictionary := wired.dictionary, warnings := [] }
  return (⟨progress.done.reverse⟩, progress.dictionary, progress.warnings)

end Grammar

end ApiWiring
