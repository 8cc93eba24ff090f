import ApiWiring.Report.Failure

/-!
# What a command asks of its host

A command reads and writes files and prints lines. It does so through a host, so that one and the
same command runs on the files of a machine and on files held in memory. A command that fails says
why; what it printed and wrote before stays.
-/
namespace ApiWiring.Console

/-- What a host finds where a file is to be read. -/
inductive Content where
  /-- There is nothing that can be read. -/
  | missing
  /-- There are bytes that are no text. -/
  | binary
  /-- There is text. -/
  | text (text : String)
deriving DecidableEq, Repr, Inhabited

/-- What a command asks for. -/
structure Host (m : Type → Type) where
  /-- Reads a file. -/
  read : String → m Content
  /-- Makes a directory and those it lies in, where they are missing; tells whether it is there. -/
  makeDirectory : String → m Bool
  /-- Writes a file; tells whether it did. -/
  write : String → String → m Bool
  /-- Prints a line. -/
  print : String → m Unit
  /-- Prints a line of warning. -/
  warn : String → m Unit
  /-- The time of day, as it is printed. -/
  time : m String

/-- Why a command fails. -/
inductive Fault where
  /-- The command is to say more and less than usual. -/
  | contradictory
  /-- A file cannot be opened. -/
  | unopened (path : String)
  /-- A file does not hold what it is to hold. -/
  | unparsed (path : String)
  /-- A directory cannot be made. -/
  | unmade (path : String)
  /-- A file cannot be written. -/
  | unwritten (path : String)
  /-- The compilation fails. -/
  | failed (failure : Failure)
deriving DecidableEq, Repr, Inhabited

/-- The wording of a fault. -/
def Fault.message : Fault → String
  | .contradictory => "--verbose and --quiet cannot be used together"
  | .unopened path => "Failed to open " ++ path
  | .unparsed path => "Failed to parse " ++ path
  | .unmade path => "Failed to create " ++ path
  | .unwritten path => "Failed to write " ++ path
  | .failed failure => failure.message

/-- A command on a host, which may fail. -/
abbrev Session (m : Type → Type) := ExceptT Fault m

end ApiWiring.Console
