import ApiWiring.Text.Segments

/-!
# Access paths

The way from the root of a payload to one of its nodes, name by name; the item of an array is
reached through a marker. The pointer of a path is its names as segments; a pointer gives back
exactly the paths whose names are neither empty nor contain a slash.
-/
namespace ApiWiring

/-- The names from the root of a payload to a node. -/
structure AccessPath where
  /-- The names, the root's child first. -/
  parts : List String
deriving DecidableEq, Repr, Inhabited

namespace AccessPath

/-- The component that stands for any item of an array. -/
def arrayItem : String := "[0]"

/-- The path of the root. -/
def root : AccessPath := ⟨[]⟩

/-- The path that a pointer writes. -/
def ofPointer (pointer : String) : AccessPath := ⟨Text.segments pointer⟩

/-- The pointer of a path: each component behind a slash. -/
def pointer (path : AccessPath) : String := Text.joinSegments path.parts

/-- The path one step further. -/
def child (path : AccessPath) (component : String) : AccessPath := ⟨path.parts ++ [component]⟩

/-- The path one step back; the root stays. -/
def parent (path : AccessPath) : AccessPath := ⟨path.parts.dropLast⟩

/-- The number of components. -/
def length (path : AccessPath) : Nat := path.parts.length

/-- Whether a component is the name of a property. -/
def isName (component : String) : Bool := component != arrayItem && component != ""

/-- The name of the node, when the path ends in one. -/
def resourceName? (path : AccessPath) : Option String := path.parts.getLast?.filter isName

/-- The nearest name above the node; array markers do not count. -/
def containerName? (path : AccessPath) : Option String := path.parts.dropLast.reverse.find? isName

/-- Paths are ordered component by component. -/
instance : Ord AccessPath := ⟨fun left right => compareOfLessAndEq left.parts right.parts⟩

/-- Whether one path goes before another, or is the same. -/
def notAfter (left right : AccessPath) : Bool := !decide (right.parts < left.parts)

/-- A step forth and a step back cancel. -/
@[simp] theorem parent_child (path : AccessPath) (component : String) :
    (path.child component).parent = path := by
  simp [parent, child]

end AccessPath

end ApiWiring
