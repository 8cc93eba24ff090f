import ApiWiring.Compilation
import ApiWiring.Console.Arguments
import ApiWiring.Console.Host
import ApiWiring.Console.Path
import ApiWiring.Document.Grammar
import ApiWiring.Json.Reader

/-!
# Loading what a compilation starts from

The files are read in the order options, requests, links, dictionary, dictionaries of single
endpoints, and the first that is not as it should be is the one reported. Switches go before the
options of the file.
-/
namespace ApiWiring.Console

variable {m : Type → Type} [Monad m]

/-- Reads a file that holds a value. -/
def load {α : Type} (host : Host m) (read : Json → Option α) (path : String) : Session m α := do
  match ← host.read path with
  | .missing => throw (.unopened path)
  | .binary => throw (.unparsed path)
  | .text text =>
    match (Json.read text).bind read with
    | some value => return value
    | none => throw (.unparsed path)

/-- Reads a file that holds a value, if there is one. -/
def loadOr {α : Type} (host : Host m) (read : Json → Option α) (missing : α) :
    Option String → Session m α
  | some path => load host read path
  | none => return missing

namespace Inputs

/-- Options with what the switches say about them. -/
def adjust (inputs : Inputs) (options : Options) : Options :=
  { options with
    resolveQuery := options.resolveQuery && !inputs.withoutQuery
    resolveBody := options.resolveBody && !inputs.withoutBody
    allowGet := options.allowGet || inputs.allowGet
    allDeclared := options.allDeclared || inputs.allDeclared
    convention := inputs.convention <|> options.convention }

/-- Reads the dictionaries of single endpoints, whose paths are meant where the options are. -/
def loadOfEndpoint (inputs : Inputs) (host : Host m) :
    List (String × String) → Session m (List (String × Dictionary))
  | [] => return []
  | (endpoint, path) :: rest => do
    let directory := inputs.options.elim "" Path.parent
    let dictionary ← load host Dictionary.ofJson? (Path.join directory path)
    return (endpoint, dictionary) :: (← loadOfEndpoint inputs host rest)

/-- Reads all that a compilation starts from. -/
def load (inputs : Inputs) (host : Host m) : Session m Compilation.Input := do
  let options ← loadOr host Options.ofJson? .standard inputs.options
  let requests ← Console.load host requestsOfJson? inputs.requests
  let recordsOf? json := (LinkFile.ofJson? json).map LinkFile.records
  let records ← loadOr host recordsOf? [] inputs.links
  let dictionary ← loadOr host Dictionary.ofJson? .empty inputs.dictionary
  let ofEndpoint ← inputs.loadOfEndpoint host options.endpointDictionaries.toList
  return {
    requests, records, dictionary
    ofEndpoint := .ofList ofEndpoint
    options := inputs.adjust options }

end Inputs

end ApiWiring.Console
