import ApiWiring.Console.Style
import ApiWiring.Naming.Convention

/-!
# Command-line arguments

A command is named by words, `compile` or `list dependencies`, and takes switches, some with a
value: `--name value`, `--name=value`, `-n value`, `-nvalue`. The color switches may stand at every
level, before or after the names; the innermost occurrence counts. A value is checked when the next
switch begins or the words end, so of two faults the one whose check comes first is reported.
-/
namespace ApiWiring.Console

/-- Why arguments name no command. -/
inductive Refusal where
  /-- Help is asked for. -/
  | help
  /-- The version is asked for. -/
  | version
  /-- Nothing is given where a command is to be named. -/
  | nothingGiven
  /-- No command is named. -/
  | missingCommand
  /-- A word is not the name of a command. -/
  | unknownCommand
  /-- A switch is unknown, or there is a word too many. -/
  | unknownArgument
  /-- A switch that must be there is not. -/
  | missingArgument
  /-- A switch is given twice. -/
  | repeatedArgument
  /-- A switch has no value, or one that it does not take. -/
  | invalidValue
  /-- A value is given to a switch that takes none. -/
  | unexpectedValue
deriving DecidableEq, Repr, Inhabited

/-- The exit code after a refusal: asking for help or the version is no mistake. -/
def Refusal.exitCode : Refusal → Nat
  | .help | .version => 0
  | _ => 2

/-- The wording of a refusal. -/
def Refusal.message : Refusal → String
  | .help | .nothingGiven =>
    "Usage: compile -i FILE -o DIR [SWITCHES], or list dependencies -i FILE [SWITCHES]"
  | .version => "0.1.0"
  | .missingCommand => "no command is named"
  | .unknownCommand => "there is no such command"
  | .unknownArgument => "an argument is not known"
  | .missingArgument => "a switch that is needed is missing"
  | .repeatedArgument => "a switch is given more than once"
  | .invalidValue => "a switch has no value, or not one that it takes"
  | .unexpectedValue => "a switch that takes no value is given one"

/-- The switches. -/
inductive Switch where
  | help | version | color | theme | input | links | dictionary | options
  | withoutQuery | withoutBody | allowGet | allDeclared | convention
  | output | verbose | quiet | unresolved
deriving DecidableEq, Repr, Inhabited

namespace Switch

/-- The name of a switch after two dashes. -/
def name : Switch → String
  | .help => "help"
  | .version => "version"
  | .color => "color"
  | .theme => "theme"
  | .input => "input"
  | .links => "annotations"
  | .dictionary => "dictionary"
  | .options => "config"
  | .withoutQuery => "no-query-dependencies"
  | .withoutBody => "no-body-dependencies"
  | .allowGet => "allow-get-producers"
  | .allDeclared => "data-fuzzing"
  | .convention => "naming-convention"
  | .output => "output"
  | .verbose => "verbose"
  | .quiet => "quiet"
  | .unresolved => "unresolved"

/-- The letter of a switch after one dash. -/
def letter? : Switch → Option Char
  | .help => some 'h'
  | .version => some 'V'
  | .input => some 'i'
  | .links => some 'a'
  | .dictionary => some 'd'
  | .options => some 'c'
  | .output => some 'o'
  | .verbose => some 'v'
  | .quiet => some 'q'
  | _ => none

/-- Whether a switch takes a value. -/
def takesValue : Switch → Bool
  | .color | .theme | .input | .links | .dictionary | .options | .convention | .output => true
  | _ => false

/-- Whether a text is a value that a switch takes. -/
def accepts (text : String) : Switch → Bool
  | .color => (Labelled.ofLabel? text : Option ColorChoice).isSome
  | .theme => (Labelled.ofLabel? text : Option ThemeChoice).isSome
  | .convention => (NamingConvention.ofFlag? text).isSome
  | .input | .links | .dictionary | .options | .output => text ≠ ""
  | _ => true

end Switch

/-- Where words are read. -/
inductive Level where
  | top | list | compile | dependencies
deriving DecidableEq, Repr, Inhabited

namespace Level

/-- The commands named at a level. -/
def commands : Level → List (String × Level)
  | .top => [("list", .list), ("compile", .compile)]
  | .list => [("dependencies", .dependencies)]
  | .compile | .dependencies => []

/-- The command that a word names at a level. -/
def command? (level : Level) (word : String) : Option Level := level.commands.lookup word

/-- The word that asks for help on the commands named at a level. -/
def helpWord : String := "help"

/-- Whether a word asks for help on the commands named at a level. -/
def asksHelp (level : Level) (word : String) : Bool := level.commands ≠ [] && word == helpWord

/-- The switches that say what is read and inferred. -/
def inputSwitches : List Switch :=
  [.input, .links, .dictionary, .options, .withoutQuery, .withoutBody, .allowGet, .allDeclared,
    .convention]

/-- The switches of a level. -/
def switches : Level → List Switch
  | .top => [.color, .theme, .help, .version]
  | .list => [.color, .theme, .help]
  | .compile => inputSwitches ++ [.output, .verbose, .quiet, .color, .theme, .help]
  | .dependencies => inputSwitches ++ [.unresolved, .color, .theme, .help]

/-- The switch with a name. -/
def named? (level : Level) (name : String) : Option Switch :=
  level.switches.find? (·.name == name)

/-- The switch with a letter. -/
def lettered? (level : Level) (letter : Char) : Option Switch :=
  level.switches.find? (·.letter? == some letter)

/-- What a word that is no switch is refused as. -/
def refuseWord (level : Level) (word : String) (afterDashes : Bool) : Refusal :=
  if level.commands = [] then .unknownArgument
  else if afterDashes ∧ ((level.command? word).isSome ∨ level.asksHelp word) then .unknownArgument
  else .unknownCommand

/-- What asking for help with further words is answered as: help on the command they name. -/
def helpOn (level : Level) : List String → Refusal
  | [] => .help
  | word :: rest =>
    match level.command? word with
    | some inner => helpOn inner rest
    | none => if level.asksHelp word ∧ rest = [] then .help else .unknownCommand

end Level

/-- The switches given, each with its value. -/
abbrev Given := List (Switch × String)

/-- The words of a level read so far. -/
structure Reading where
  /-- The switches that were checked, the last first. -/
  given : Given
  /-- The switch that is still to be checked, with its value if it was read. -/
  pending : Option (Switch × Option String)
deriving DecidableEq, Repr, Inhabited

namespace Reading

/-- Nothing is read. -/
def start : Reading := ⟨[], none⟩

/-- Whether a switch waits for its value. -/
def awaits (reading : Reading) : Bool :=
  match reading.pending with
  | some (_, none) => true
  | _ => false

/-- Takes a switch with its value among those given. -/
def record (given : Given) (switch : Switch) (value : String) : Except Refusal Given :=
  if given.any (·.1 == switch) then .error .repeatedArgument
  else if switch.accepts value then .ok ((switch, value) :: given)
  else .error .invalidValue

/-- Checks the pending switch. -/
def settle (reading : Reading) : Except Refusal Given :=
  match reading.pending with
  | none => .ok reading.given
  | some (_, none) => .error .invalidValue
  | some (switch, some value) => record reading.given switch value

/-- Reads a switch that is complete. -/
def give (reading : Reading) (switch : Switch) (value : String) : Except Refusal Reading := do
  let given ← reading.settle
  match switch with
  | .help => .error .help
  | .version => .error .version
  | switch => return ⟨← record given switch value, none⟩

/-- Reads a switch whose value is the next word. -/
def await (reading : Reading) (switch : Switch) : Except Refusal Reading := do
  return ⟨← reading.settle, some (switch, none)⟩

/-- Reads a word as the value that a switch waits for. -/
def supply (reading : Reading) (word : String) : Reading :=
  { reading with pending := reading.pending.map fun (switch, _) => (switch, some word) }

/-- Reads the name of a switch, with the value attached to it. -/
def readName (level : Level) (reading : Reading) (name : String) (value? : Option String) :
    Except Refusal Reading :=
  match level.named? name with
  | none => .error .unknownArgument
  | some switch =>
    match switch.takesValue, value? with
    | true, some value => reading.give switch value
    | true, none => reading.await switch
    | false, some _ => .error .unexpectedValue
    | false, none => reading.give switch ""

/-- Reads the letters after a dash: each is a switch, and the rest after one that takes a value is
its value, an equals sign in between left out. -/
def readLetters (level : Level) (reading : Reading) : List Char → Except Refusal Reading
  | [] => .ok reading
  | letter :: rest =>
    match level.lettered? letter with
    | none => .error .unknownArgument
    | some switch =>
      if switch.takesValue then
        match rest with
        | [] => reading.await switch
        | '=' :: value => reading.give switch (String.ofList value)
        | value => reading.give switch (String.ofList value)
      else do
        let reading ← reading.give switch ""
        readLetters level reading rest

/-- Reads a word before two dashes that names no command. -/
def readWord (level : Level) (reading : Reading) (word : String) : Except Refusal Reading :=
  match word.toList with
  | '-' :: '-' :: text =>
    match text.dropWhile (· ≠ '=') with
    | [] => readName level reading (String.ofList text) none
    | _ :: value =>
      readName level reading (String.ofList (text.takeWhile (· ≠ '=')))
        (some (String.ofList value))
  | '-' :: letter :: letters => readLetters level reading (letter :: letters)
  | _ => if reading.awaits then .ok (reading.supply word) else .error (level.refuseWord word false)

end Reading

/-- What is read and inferred. -/
structure Inputs where
  /-- The file with the requests. -/
  requests : String
  /-- The file with records of links. -/
  links : Option String
  /-- The file with the starting dictionary. -/
  dictionary : Option String
  /-- The file with options. -/
  options : Option String
  /-- Whether query parameters are no consumers, whatever the options say. -/
  withoutQuery : Bool
  /-- Whether body properties are no consumers, whatever the options say. -/
  withoutBody : Bool
  /-- Whether responses to reading requests produce, whatever the options say. -/
  allowGet : Bool
  /-- Whether all declared parameters are taken, whatever the options say. -/
  allDeclared : Bool
  /-- The casing style that goes before that of the options. -/
  convention : Option NamingConvention
deriving DecidableEq, Repr, Inhabited

/-- A command. -/
inductive Command where
  /-- Compile requests and write the result into a directory. -/
  | compile (inputs : Inputs) (output : String) (verbose quiet : Bool)
  /-- Compile requests and print the consumers, or those without a producer. -/
  | dependencies (inputs : Inputs) (unresolvedOnly : Bool)
deriving DecidableEq, Repr, Inhabited

/-- A command and how to print. -/
structure Invocation where
  /-- When to write in colors. -/
  color : ColorChoice
  /-- The background asked for. -/
  theme : ThemeChoice
  /-- The command. -/
  command : Command
deriving DecidableEq, Repr, Inhabited

namespace Given

/-- The value of a switch. -/
def value? (given : Given) (switch : Switch) : Option String := given.lookup switch

/-- Whether a switch is given. -/
def has (given : Given) (switch : Switch) : Bool := (given.value? switch).isSome

/-- What switches say is read and inferred; `none` where the requests are not named. -/
def inputs? (given : Given) : Option Inputs := do
  let requests ← given.value? .input
  some {
    requests
    links := given.value? .links
    dictionary := given.value? .dictionary
    options := given.value? .options
    withoutQuery := given.has .withoutQuery
    withoutBody := given.has .withoutBody
    allowGet := given.has .allowGet
    allDeclared := given.has .allDeclared
    convention := (given.value? .convention).bind NamingConvention.ofFlag? }

/-- The command of a level with its switches; `none` where one is missing. -/
def command? (given : Given) : Level → Option Command
  | .compile => do
    let inputs ← given.inputs?
    let output ← given.value? .output
    some (.compile inputs output (given.has .verbose) (given.has .quiet))
  | .dependencies => do some (.dependencies (← given.inputs?) (given.has .unresolved))
  | .top | .list => none

end Given

/-- The word after which no switch is read. -/
def dashes : String := "--"

/-- What is refused where the words of a level end and its switches make no command. -/
def refuseEnd (level : Level) (given : Given) : Refusal :=
  if level.commands = [] then .missingArgument
  else if given = [] then .nothingGiven
  else .missingCommand

/-- Reads the words of a level and those inside it, giving the command with the switches of all
levels, the innermost first. -/
def readWords (level : Level) (afterDashes : Bool) (reading : Reading) :
    List String → Except Refusal (Command × Given)
  | [] => do
    let given ← reading.settle
    match given.command? level with
    | some command => return (command, given)
    | none => .error (refuseEnd level given)
  | word :: rest =>
    if afterDashes then .error (level.refuseWord word true)
    else if ¬reading.awaits ∧ level.asksHelp word then .error (level.helpOn rest)
    else match if reading.awaits then none else level.command? word with
      | some inner => do
        let (command, given) ← readWords inner false .start rest
        return (command, given ++ (← reading.settle))
      | none =>
        if word = dashes then readWords level true reading rest
        else do
          let reading ← reading.readWord level word
          readWords level false reading rest

namespace Invocation

/-- The invocation that arguments mean. -/
def ofArguments (arguments : List String) : Except Refusal Invocation := do
  let (command, given) ← readWords .top false .start arguments
  return {
    color := ((given.value? .color).bind Labelled.ofLabel?).getD .auto
    theme := ((given.value? .theme).bind Labelled.ofLabel?).getD .auto
    command }

end Invocation

end ApiWiring.Console
