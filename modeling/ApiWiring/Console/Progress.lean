import ApiWiring.Compilation
import ApiWiring.Console.Style

/-!
# What a compilation says of itself

The lines printed while requests are compiled: what is being done, with the time, then counts, then
warnings. Warnings about what a user wrote are always shown, the others where more is asked for.
-/
namespace ApiWiring.Console

open Compilation

/-- Digits from the right in groups of three, each but the last followed by a comma. -/
def grouped : List Char → List Char
  | a :: b :: c :: d :: rest => a :: b :: c :: ',' :: grouped (d :: rest)
  | digits => digits

/-- A count with commas between thousands. -/
def countText (n : Nat) : String :=
  String.ofList (grouped (Nat.repr n).toList.reverse).reverse

namespace Style

/-- A line that begins with the time. -/
def stamped (style : Style) (time message : String) : String :=
  style.paint .timestamp time ++ " " ++ message

/-- A line of what is being done. -/
def step (style : Style) (time message : String) : String :=
  style.stamped time (style.paint .primary message)

/-- A line of something counted. -/
def stat (style : Style) (name value : String) : String :=
  "            " ++ style.paint .label name ++ " " ++ style.paint .value value

/-- A line of a count. -/
def count (style : Style) (name : String) (n : Nat) : String := style.stat name (countText n)

/-- The lines of the counts of a compilation, more of them where `verbose`. -/
def statistics (style : Style) (verbose : Bool) (summary : Summary) : List String :=
  [style.count "Requests compiled:" summary.requests,
    style.count "Consumers found:" summary.consumers,
    style.stat "" (style.paint .resolved (countText summary.resolved ++ " resolved")),
    style.stat "" (style.paint .unresolved (countText summary.unresolved ++ " unresolved"))] ++
  (if verbose then
    [style.count "Response producers:" summary.responseProducers,
      style.count "Same-body producers:" summary.siblingProducers,
      style.count "Same-body dependencies:" summary.siblings,
      style.count "Dictionary entries added:" summary.entriesAdded,
      style.stat "Fingerprint:" summary.fingerprint]
  else []) ++
  if summary.warnings = [] then [] else [style.count "Warnings:" summary.warnings.length]

/-- The line of a warning. -/
def warning (style : Style) (warning : Warning) : String :=
  style.paint .accent (if warning.isInputIssue then "Input:" else "Warning:") ++ " " ++
    style.paint .primary warning.message

end Style

/-- The warnings that are shown: all of them where `verbose`. -/
def shownWarnings (verbose : Bool) (warnings : List Warning) : List Warning :=
  warnings.filter fun warning => warning.isInputIssue || verbose

end ApiWiring.Console
