import ApiWiring.Console.Table
import ApiWiring.Report.Manifest

/-!
# Listing dependencies

The manifest as a table of consumers with their producers.
-/
namespace ApiWiring.Console

/-- How a consumer without a producer is marked. -/
def unresolvedMark : String := "(unresolved)"

namespace Listing

/-- The text of the producer of an entry. -/
def producer (entry : ManifestEntry) : String :=
  match entry.producerMethod, entry.producerEndpoint, entry.producerResourceName with
  | some method, some endpoint, some resource => method ++ " " ++ endpoint ++ " " ++ resource
  | _, _, some resource => resource
  | _, _, none => unresolvedMark

/-- The row of a line of a manifest. -/
def row (line : Manifest.Line) : List String :=
  [line.endpoint, line.method, line.kind, line.entry.consumerParam, producer line.entry,
    line.entry.producerKind.elim "" label]

/-- The table of a manifest, or of its consumers without a producer. -/
def table (manifest : Manifest) (unresolvedOnly : Bool) : Table where
  header := ["ENDPOINT", "METHOD", "KIND", "CONSUMER", "PRODUCER", "SOURCE"]
  alignments := [.left, .right, .left, .left, .left, .left]
  rows := (manifest.lines.filter fun line => !(unresolvedOnly && line.entry.isResolved)).map row

/-- How many cells a line has where output is no terminal. -/
def width : Nat := 80

/-- The text of a listing. -/
def render (manifest : Manifest) (unresolvedOnly : Bool) : String :=
  if manifest.isEmpty then "No consumers found"
  else (table manifest unresolvedOnly).render width

end Listing

end ApiWiring.Console
