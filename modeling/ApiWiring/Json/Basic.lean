import ApiWiring.Numeric.Binary64

/-!
# JSON values

A JSON value keeps the members of an object in their order. Whole numbers are integers, all others
are doubles. Text may be well formed and stand for no value: a lone surrogate, a number beyond the
doubles, too many nested brackets. The reader puts `unreadable` there. A member that nobody asks
for may be unreadable; whoever reads a value refuses it (`value?` for a value as a whole).
-/
namespace ApiWiring

/-- A JSON value. -/
inductive Json where
  | null
  | bool (value : Bool)
  | int (value : Int)
  | float (value : Binary64)
  | str (value : String)
  | arr (items : List Json)
  | obj (members : List (String × Json))
  /-- Well-formed text that stands for no value. -/
  | unreadable
deriving Repr, Inhabited

namespace Json

/-- The members with `key` set: at its place when it is there, else at the end. -/
def setMember {α : Type} (members : List (String × α)) (key : String) (value : α) :
    List (String × α) :=
  match members with
  | [] => [(key, value)]
  | (found, old) :: rest =>
    if found = key then (key, value) :: rest else (found, old) :: setMember rest key value

/-- Members without repetitions: a repeated key keeps its first place and its last value. -/
def distinctMembers {α : Type} (members : List (String × α)) : List (String × α) :=
  members.foldl (fun done member => setMember done member.1 member.2) []

mutual

/-- The value as a whole, its objects without repeated keys; `none` when a part is unreadable. -/
def value? : Json → Option Json
  | .arr items => (items? items).map .arr
  | .obj members => (members? members).map fun members => .obj (distinctMembers members)
  | .unreadable => none
  | scalar => some scalar

/-- The items of an array as values. -/
def items? : List Json → Option (List Json)
  | [] => some []
  | item :: rest => do
    let item ← value? item
    let rest ← items? rest
    some (item :: rest)

/-- The members of an object as values. -/
def members? : List (String × Json) → Option (List (String × Json))
  | [] => some []
  | (key, member) :: rest => do
    let member ← value? member
    let rest ← members? rest
    some ((key, member) :: rest)

end

/-- The first value of a key of an object. -/
def member? (json : Json) (key : String) : Option Json :=
  match json with
  | .obj members => members.lookup key
  | _ => none

end Json

end ApiWiring
