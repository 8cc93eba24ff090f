import ApiWiring.Console.FileTree
import ApiWiring.Console.Session

/-!
# Running a command in memory

A desk holds files and what was printed. As a host it makes every command a function from files to
files and texts.
-/
namespace ApiWiring.Console

/-- Files and what was printed. -/
structure Desk where
  /-- The files. -/
  files : FileTree
  /-- What was printed. -/
  printed : String
  /-- What was printed as warnings. -/
  warned : String
deriving Repr, Inhabited

namespace Desk

/-- Changes the files if that is possible, and tells whether it was. -/
def change (action : FileTree → Option FileTree) : StateM Desk Bool := fun desk =>
  match action desk.files with
  | some files => (true, { desk with files })
  | none => (false, desk)

/-- A desk as the host of a command, at a time that stands still. -/
def host (time : String) : Host (StateM Desk) where
  read path := fun desk => ((desk.files.read? path).elim .missing .text, desk)
  makeDirectory path := change (·.makeDirectory? path)
  write path text := change (·.write? path text)
  print line := fun desk => ((), { desk with printed := desk.printed ++ line ++ "\n" })
  warn line := fun desk => ((), { desk with warned := desk.warned ++ line ++ "\n" })
  time := return time

/-- What a command leaves behind when it starts with given files. -/
def ofCommand (command : Command) (style : Style) (time : String) (files : FileTree) :
    Except Fault Unit × Desk :=
  (command.run (host time) style).run ⟨files, "", ""⟩

end Desk

end ApiWiring.Console
