import ApiWiring.Grammar.Basic
import ApiWiring.Report.Fingerprint

/-!
# Compilation

From requests, links, dictionaries and options to a grammar: the links that hold everywhere are
taken from their records, the values of all requests are wired in two passes, the wiring is put into
the parameters, and the manifest, the counts and the fingerprint are drawn up. A failure of any step
is the failure of the whole.
-/
namespace ApiWiring

namespace Compilation

/-- What a compilation starts from. -/
structure Input where
  /-- The requests. -/
  requests : List Request
  /-- Records of links that hold everywhere. -/
  records : List LinkRecord
  /-- The starting dictionary. -/
  dictionary : Dictionary
  /-- Dictionaries of single endpoints. -/
  ofEndpoint : SortedEntries Dictionary
  /-- What is to be inferred. -/
  options : Options
deriving Repr, Inhabited

/-- The counts of a compilation. -/
structure Summary where
  /-- The number of requests. -/
  requests : Nat
  /-- The number of consumers. -/
  consumers : Nat
  /-- The number of consumers with a producer. -/
  resolved : Nat
  /-- The number of consumers without one. -/
  unresolved : Nat
  /-- The number of slots that responses offer. -/
  responseProducers : Nat
  /-- The number of body properties that may supply others. -/
  siblingProducers : Nat
  /-- The number of consumers supplied from their own body. -/
  siblings : Nat
  /-- The number of entries added to the dictionary. -/
  entriesAdded : Nat
  /-- What is reported. -/
  warnings : List Warning
  /-- The fingerprint. -/
  fingerprint : String
deriving Repr, Inhabited

/-- What a compilation gives. -/
structure Output where
  /-- The grammar. -/
  grammar : Grammar
  /-- The dictionary with the entries added. -/
  dictionary : Dictionary
  /-- The manifest of dependencies. -/
  manifest : Manifest
  /-- The counts. -/
  summary : Summary
deriving Repr, Inhabited

/-- The links that hold everywhere, and the reports on records that are none. -/
def everywhere (input : Input) : List Link × List Warning :=
  Link.ofRecords input.records none "global annotations"

/-- What the passes of a compilation work on. -/
def setting (input : Input) : Setting where
  requests := input.requests
  everywhere := (everywhere input).1
  dictionary := input.dictionary
  ofEndpoint := input.ofEndpoint
  options := input.options

/-- Compiles requests into a grammar. -/
def compile (input : Input) : Except Failure Output := do
  let result ← Passes.run (setting input)
  let (grammar, dictionary, pathWarnings) ←
    Grammar.build input.requests input.options result.wired
  let connections := result.wired.wiring.connections
  let manifest := Manifest.ofWiring result.wired.wiring
  let fingerprint ← fingerprint manifest dictionary
  return {
    grammar
    dictionary
    manifest
    summary := {
      requests := input.requests.length
      consumers := connections.length
      resolved := connections.countP (·.producer?.isSome)
      unresolved := connections.countP (·.producer?.isNone)
      responseProducers := result.responseCount
      siblingProducers := result.siblingProducerCount
      siblings := result.siblingCount
      entriesAdded := dictionary.size - input.dictionary.size
      warnings := (everywhere input).2 ++ result.warnings ++ pathWarnings
      fingerprint } }

end Compilation

end ApiWiring
