import ApiWiring.Console.Session
import Std.Time.Zoned

/-!
# The program

Runs the command that the arguments name on the files of the machine.
-/
namespace ApiWiring

open Console

/-- The digits of a number below a hundred, both of them. -/
def twoDigits (n : Nat) : String :=
  (if n < 10 then "0" else "") ++ Nat.repr n

/-- The time of day in brackets. -/
def timeOfDay : IO String := do
  let now ← Std.Time.PlainTime.now
  return "[" ++ twoDigits now.hour.val.toNat ++ ":" ++ twoDigits now.minute.val.toNat ++ ":" ++
    twoDigits now.second.val.toNat ++ "]"

/-- Whether an action succeeds. -/
def succeeds (action : IO Unit) : IO Bool := do
  match ← action.toBaseIO with
  | .ok () => return true
  | .error _ => return false

/-- The machine that the program runs on. -/
def machine : Host IO where
  read path := do
    match ← (IO.FS.readBinFile path).toBaseIO with
    | .ok bytes => return (String.fromUTF8? bytes).elim .binary .text
    | .error _ => return .missing
  makeDirectory path := succeeds (IO.FS.createDirAll path)
  write path text := succeeds (IO.FS.writeFile path text)
  print := IO.println
  warn := IO.eprintln
  time := timeOfDay

/-- Runs an invocation and gives the exit code. -/
def runInvocation (invocation : Invocation) : IO UInt32 := do
  let terminal ← (← IO.getStdout).isTty
  let background ← IO.getEnv "COLORFGBG"
  let style := Style.ofChoices invocation.color invocation.theme terminal background
  match ← (invocation.command.run machine style).run with
  | .ok () => return 0
  | .error fault =>
    IO.eprintln ("Error: " ++ fault.message)
    return 1

end ApiWiring

/-- Runs the command that the arguments name. -/
def main (arguments : List String) : IO UInt32 := do
  match ApiWiring.Console.Invocation.ofArguments arguments with
  | .ok invocation => ApiWiring.runInvocation invocation
  | .error refusal =>
    if refusal.exitCode = 0 then IO.println refusal.message
    else IO.eprintln ("error: " ++ refusal.message)
    return UInt32.ofNat refusal.exitCode
