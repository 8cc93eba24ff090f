import ApiWiring.Console.Listing
import ApiWiring.Console.Loading
import ApiWiring.Console.Progress
import ApiWiring.Document.Manifest

/-!
# Running commands

A command loads its files and compiles them. `compile` says what it does and writes three documents;
`dependencies` prints a table. Text is printed as soon as it is known, so it is there also when a
later step fails.
-/
namespace ApiWiring.Console

variable {m : Type → Type} [Monad m]

/-- The documents of a compilation, by the names of their files, in the order they are written. -/
def documents (output : Compilation.Output) : List (String × Json) :=
  [("grammar.json", output.grammar.toJson), ("dict.json", output.dictionary.toJson),
    ("dependencies.json", output.manifest.toJson)]

namespace Host

/-- Writes documents into a directory. -/
def writeAll (host : Host m) (directory : String) : List (String × Json) → Session m Unit
  | [] => return
  | (name, document) :: rest => do
    let path := Path.join directory name
    if ← host.write path document.pretty then host.writeAll directory rest
    else throw (.unwritten path)

/-- Writes documents into a directory, which is made where it is missing. -/
def publish (host : Host m) (directory : String) (documents : List (String × Json)) :
    Session m Unit := do
  if ← host.makeDirectory directory then host.writeAll directory documents
  else throw (.unmade directory)

/-- Prints lines. -/
def printAll (host : Host m) : List String → Session m Unit
  | [] => return
  | line :: rest => do
    host.print line
    host.printAll rest

/-- Prints the warnings of a compilation that are shown, after an empty line. -/
def printWarnings (host : Host m) (style : Style) (warnings : List Warning) : Session m Unit := do
  if warnings ≠ [] then host.print ""
  warnings.forM fun warning => host.warn (style.warning warning)

end Host

/-- Compiles, or fails. -/
def compiled (input : Compilation.Input) : Session m Compilation.Output :=
  match Compilation.compile input with
  | .ok output => return output
  | .error failure => throw (.failed failure)

/-- Compiles what the inputs name and writes the result into a directory; `quiet` prints nothing,
`verbose` more than else. -/
def runCompile (host : Host m) (style : Style) (inputs : Inputs) (directory : String)
    (verbose quiet : Bool) : Session m Unit := do
  if verbose && quiet then throw .contradictory
  let aloud (action : Session m Unit) : Session m Unit := if quiet then return else action
  let step (message : String) : Session m Unit := aloud do
    host.print (style.step (← host.time) message)
  step ("Loading requests from: " ++ inputs.requests)
  let input ← inputs.load host
  step "Inferring producer-consumer dependencies..."
  let output ← compiled input
  aloud do
    host.printAll (style.statistics verbose output.summary)
    host.printWarnings style (shownWarnings verbose output.summary.warnings)
  step ("Writing to: " ++ directory)
  host.publish directory (documents output)
  aloud do
    host.print ""
    host.print (style.stamped (← host.time)
      (style.paint .success "Successfully compiled fuzzing grammar"))

/-- Compiles what the inputs name and prints the consumers. -/
def runDependencies (host : Host m) (inputs : Inputs) (unresolvedOnly : Bool) :
    Session m Unit := do
  let output ← compiled (← inputs.load host)
  host.print (Listing.render output.manifest unresolvedOnly)

/-- Runs a command. -/
def Command.run (command : Command) (host : Host m) (style : Style) : Session m Unit :=
  match command with
  | .compile inputs directory verbose quiet =>
    runCompile host style inputs directory verbose quiet
  | .dependencies inputs unresolvedOnly => runDependencies host inputs unresolvedOnly

end ApiWiring.Console
