import ApiWiring.Api.AccessPath
import ApiWiring.Api.Payload

/-!
# Property trees

The payload of a parameter or of a response as a tree. A leaf carries what is sent; an inner node is
an object, an array of items of one form, or a named property around others. The nodes of a tree are
taken up parent first and children in order (`fold`, and `visits` for the list of them), each with
the path that leads to it: the item of an array is reached through the array marker, every other
child by its own name.
-/
namespace ApiWiring

/-- The form of an inner node. -/
inductive PropertyShape where
  | object | array | property
deriving DecidableEq, Repr, Inhabited

instance : Labelled PropertyShape where
  all := [.object, .array, .property]
  label
    | .object => "object"
    | .array => "array"
    | .property => "property"

/-- A property with a value of its own. -/
structure LeafProperty where
  /-- The name; array items and roots have the empty one. -/
  name : String
  /-- What is sent. -/
  payload : Payload
  /-- Whether a request must give the property. -/
  isRequired : Bool
  /-- Whether only responses give the property. -/
  isReadOnly : Bool
deriving Repr, Inhabited

/-- A leaf as it is made where nothing else is said: required and not read-only. -/
def LeafProperty.plain (name : String) (payload : Payload) : LeafProperty :=
  ⟨name, payload, true, false⟩

/-- A property made of others. -/
structure InnerProperty where
  /-- The name; array items and roots have the empty one. -/
  name : String
  /-- What is sent instead of the whole subtree, where something is. -/
  override : Option Payload
  /-- The form of the node. -/
  shape : PropertyShape
  /-- Whether a request must give the property. -/
  isRequired : Bool
  /-- Whether only responses give the property. -/
  isReadOnly : Bool
deriving Repr, Inhabited

/-- A payload as a tree of properties. -/
inductive PropertyTree where
  | leaf (property : LeafProperty)
  | inner (property : InnerProperty) (children : List PropertyTree)
deriving Repr, Inhabited

/-- A node of a tree without what is below it. -/
inductive PropertyNode where
  | leaf (property : LeafProperty)
  | inner (property : InnerProperty) (childCount : Nat)
deriving Repr, Inhabited

namespace PropertyNode

/-- The name of a node. -/
def name : PropertyNode → String
  | .leaf property => property.name
  | .inner property _ => property.name

/-- The type of a node's value; an inner node is an object. -/
def type : PropertyNode → PrimitiveType
  | .leaf property => property.payload.type
  | .inner _ _ => .object

/-- What a node itself sends. -/
def payload? : PropertyNode → Option Payload
  | .leaf property => some property.payload
  | .inner property _ => property.override

/-- Whether a node is a leaf. -/
def isLeaf : PropertyNode → Bool
  | .leaf _ => true
  | .inner _ _ => false

end PropertyNode

/-- The component by which a child of this name is reached from a node. -/
def InnerProperty.component (property : InnerProperty) (childName : String) : String :=
  match property.shape with
  | .array => AccessPath.arrayItem
  | .object | .property => childName

/-- The component is the array marker below an array and the name of the child elsewhere. -/
theorem InnerProperty.component_eq (property : InnerProperty) (childName : String) :
    property.component childName =
      if property.shape = .array then AccessPath.arrayItem else childName := by
  rw [component]
  cases property.shape <;> rfl

namespace PropertyTree

universe u

/-- The node at the root of a tree. -/
def node : PropertyTree → PropertyNode
  | .leaf property => .leaf property
  | .inner property children => .inner property children.length

/-- The name of the root of a tree. -/
def name (tree : PropertyTree) : String := tree.node.name

mutual

/-- Takes up the nodes of a tree whose root is at `path` one after the other, parents first and
children in order: `step` is given what was made so far, the node with all that is below it, and the
path to it. -/
def fold {α : Type u} (step : α → PropertyTree → AccessPath → α) (path : AccessPath) (init : α) :
    PropertyTree → α
  | .leaf property => step init (.leaf property) path
  | .inner property children =>
    foldChildren step path property (step init (.inner property children) path) children

/-- Takes up the nodes of the subtrees of a node, subtree by subtree. -/
def foldChildren {α : Type u} (step : α → PropertyTree → AccessPath → α) (path : AccessPath)
    (property : InnerProperty) (init : α) : List PropertyTree → α
  | [] => init
  | child :: rest =>
    foldChildren step path property
      (fold step (path.child (property.component child.name)) init child) rest

end

mutual

/-- The nodes of a tree whose root is at `path`, parents first, each with its path. -/
def visits (path : AccessPath) : PropertyTree → List (AccessPath × PropertyNode)
  | .leaf property => [(path, .leaf property)]
  | .inner property children =>
    (path, .inner property children.length) :: childVisits path property children

/-- The nodes of the subtrees of a node, subtree by subtree. -/
def childVisits (path : AccessPath) (property : InnerProperty) :
    List PropertyTree → List (AccessPath × PropertyNode)
  | [] => []
  | child :: rest =>
    visits (path.child (property.component child.name)) child ++ childVisits path property rest

end

/-- All dictionary entries that a tree sends, in the order of its nodes. -/
def customPayloads (tree : PropertyTree) : List CustomPayload :=
  (tree.visits .root).flatMap fun (_, node) => node.payload?.toList.flatMap Payload.customPayloads

/-- All kept values that a tree sends, in the order of its nodes. -/
def dynamicObjects (tree : PropertyTree) : List DynamicObject :=
  (tree.visits .root).flatMap fun (_, node) => node.payload?.toList.flatMap Payload.dynamicObjects

/-- The first visit is the root's. -/
theorem visits_head? (path : AccessPath) (tree : PropertyTree) :
    (tree.visits path).head? = some (path, tree.node) := by
  cases tree <;> simp [visits, node]

/-- The visits below a node are those of its children in turn. -/
theorem childVisits_eq (path : AccessPath) (property : InnerProperty)
    (children : List PropertyTree) :
    childVisits path property children =
      children.flatMap fun child => child.visits (path.child (property.component child.name)) := by
  induction children with
  | nil => rfl
  | cons child rest ih => simp [childVisits, ih]

/-- The nodes below a node are taken up subtree by subtree. -/
theorem foldChildren_eq {α : Type u} (step : α → PropertyTree → AccessPath → α)
    (path : AccessPath) (property : InnerProperty) (init : α) (children : List PropertyTree) :
    foldChildren step path property init children = children.foldl (fun made child =>
      child.fold step (path.child (property.component child.name)) made) init := by
  induction children generalizing init with
  | nil => rfl
  | cons child rest ih => rw [foldChildren, ih, List.foldl_cons]

end PropertyTree

end ApiWiring
