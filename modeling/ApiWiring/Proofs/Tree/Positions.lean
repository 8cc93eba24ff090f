import ApiWiring.Api.Property

/-!
# Positions in a property tree

A position is the list of child numbers on the way from the root of a tree to a node. Names may
repeat among the children of a node, positions do not: a node is known by its position, and the
access path of a node is read off its position, one component for each number (`pathTo_child`). The
positions in a tree are listed like words in a dictionary (`pairwise_positions`). A tree is proved
about by its shape: what holds of all leaves, and of an inner node whenever it holds of all of its
children, holds of every tree.
-/
namespace ApiWiring.PropertyTree

/-- What holds of leaves and passes from the children of a node to the node holds of every tree. -/
@[elab_as_elim]
theorem induction {motive : PropertyTree → Prop} (leaf : ∀ property, motive (.leaf property))
    (inner : ∀ property children, (∀ child ∈ children, motive child) →
      motive (.inner property children)) (tree : PropertyTree) : motive tree := by
  refine PropertyTree.rec (motive_1 := motive)
    (motive_2 := fun children => ∀ child ∈ children, motive child) leaf inner ?_ ?_ tree
  · intro child member
    simp at member
  · intro head tail first others child member
    rcases List.mem_cons.mp member with rfl | later
    · exact first
    · exact others child later

/-- The subtree at a position, if the position is in the tree. -/
def subtree? : PropertyTree → List Nat → Option PropertyTree
  | tree, [] => some tree
  | .leaf _, _ :: _ => none
  | .inner _ children, index :: rest => children[index]?.bind fun child => child.subtree? rest

/-- The access path of the node at a position, when the root of the tree is at `path`. -/
def pathTo (path : AccessPath) : PropertyTree → List Nat → AccessPath
  | _, [] => path
  | .leaf _, _ :: _ => path
  | .inner property children, index :: rest =>
    match children[index]? with
    | some child => child.pathTo (path.child (property.component child.name)) rest
    | none => path

/-- The subtree at the position of the root is the tree. -/
@[simp] theorem subtree?_nil (tree : PropertyTree) : tree.subtree? [] = some tree := by
  cases tree <;> rfl

/-- The path to the root is that of the root. -/
@[simp] theorem pathTo_nil (path : AccessPath) (tree : PropertyTree) :
    tree.pathTo path [] = path := by
  cases tree <;> rfl

/-- A leaf has no position below its root. -/
@[simp] theorem subtree?_leaf_cons (property : LeafProperty) (index : Nat) (rest : List Nat) :
    (leaf property).subtree? (index :: rest) = none := rfl

/-- A position below the root of an inner node is a position in one of its children. -/
theorem subtree?_cons_of_child {property : InnerProperty} {children : List PropertyTree}
    {index : Nat} {child : PropertyTree} (found : children[index]? = some child)
    (rest : List Nat) :
    (inner property children).subtree? (index :: rest) = child.subtree? rest := by
  simp [subtree?, found]

/-- Where there is no child, there is no subtree. -/
theorem subtree?_cons_of_no_child {property : InnerProperty} {children : List PropertyTree}
    {index : Nat} (missing : children[index]? = none) (rest : List Nat) :
    (inner property children).subtree? (index :: rest) = none := by
  simp [subtree?, missing]

/-- The path into a child goes through the component of the child. -/
theorem pathTo_cons_of_child {property : InnerProperty} {children : List PropertyTree}
    {index : Nat} {child : PropertyTree} (found : children[index]? = some child)
    (path : AccessPath) (rest : List Nat) :
    (inner property children).pathTo path (index :: rest) =
      child.pathTo (path.child (property.component child.name)) rest := by
  simp [pathTo, found]

/-- A position on the way to one in a tree is in the tree. -/
theorem isSome_subtree?_of_prefix {tree : PropertyTree} {above position : List Nat}
    (leading : above <+: position) (found : (tree.subtree? position).isSome) :
    (tree.subtree? above).isSome := by
  induction above generalizing tree position with
  | nil => rw [subtree?_nil]; rfl
  | cons index rest ih =>
    obtain ⟨later, rfl⟩ := leading
    rw [List.cons_append] at found
    cases tree with
    | leaf property => cases found
    | inner property children =>
      cases child : children[index]? with
      | none =>
        rw [subtree?_cons_of_no_child child] at found
        cases found
      | some below =>
        rw [subtree?_cons_of_child child] at found ⊢
        exact ih (List.prefix_append _ _) found

variable {property : InnerProperty} {children : List PropertyTree}

/-- The path to a position goes on from the path of the root as it does from the empty one. -/
theorem parts_pathTo (tree : PropertyTree) (root : AccessPath) (position : List Nat) :
    (tree.pathTo root position).parts = root.parts ++ (tree.pathTo .root position).parts := by
  induction position generalizing tree root with
  | nil => simp [AccessPath.root]
  | cons index rest ih =>
    cases tree with
    | leaf property => simp [pathTo, AccessPath.root]
    | inner property children =>
      cases found : children[index]? with
      | none => simp [pathTo, found, AccessPath.root]
      | some child =>
        rw [pathTo_cons_of_child found, pathTo_cons_of_child found, ih, ih child (.child .root _)]
        simp [AccessPath.child, AccessPath.root]

/-- The path to a child goes one step beyond that to its parent: the step is the array marker if the
parent is an array, and the name of the child if not. -/
theorem pathTo_child {tree child : PropertyTree} {position : List Nat} {index : Nat}
    (found : tree.subtree? position = some (inner property children))
    (listed : children[index]? = some child) (root : AccessPath) :
    tree.pathTo root (position ++ [index]) =
      (tree.pathTo root position).child (property.component child.name) := by
  induction position generalizing tree root with
  | nil =>
    obtain rfl : tree = inner property children := by simpa using found
    rw [List.nil_append, pathTo_cons_of_child listed, pathTo_nil, pathTo_nil]
  | cons number rest ih =>
    cases tree with
    | leaf property => cases found
    | inner other others =>
      cases next : others[number]? with
      | none =>
        rw [subtree?_cons_of_no_child next] at found
        cases found
      | some below =>
        rw [subtree?_cons_of_child next] at found
        rw [List.cons_append, pathTo_cons_of_child next, pathTo_cons_of_child next, ih found]

/-! ## All positions -/

mutual

/-- The positions in a tree, parents first and children in order. -/
def positions : PropertyTree → List (List Nat)
  | .leaf _ => [[]]
  | .inner _ children => [] :: childPositions 0 children

/-- The positions in the subtrees of a node, the first of which has the number `index`. -/
def childPositions (index : Nat) : List PropertyTree → List (List Nat)
  | [] => []
  | child :: rest => (positions child).map (index :: ·) ++ childPositions (index + 1) rest

end

/-- The positions below a node are those in its children, each behind the number of the child. -/
theorem childPositions_eq (index : Nat) (children : List PropertyTree) :
    childPositions index children =
      (children.zipIdx index).flatMap fun (child, number) => child.positions.map (number :: ·) := by
  induction children generalizing index with
  | nil => rfl
  | cons child rest ih => rw [childPositions, ih, List.zipIdx_cons, List.flatMap_cons]

/-- The positions in a tree are those at which it has a subtree. -/
theorem mem_positions_iff {tree : PropertyTree} {position : List Nat} :
    position ∈ tree.positions ↔ (tree.subtree? position).isSome = true := by
  induction tree using PropertyTree.induction generalizing position with
  | leaf property => cases position <;> simp [positions]
  | inner property children ih =>
    cases position with
    | nil => simp [positions]
    | cons number rest =>
      have below : number :: rest ∈ childPositions 0 children ↔
          ∃ child, children[number]? = some child ∧ rest ∈ child.positions := by
        simp only [childPositions_eq, List.mem_flatMap, List.mem_map, Prod.exists,
          List.mem_zipIdx_iff_getElem?, List.cons.injEq]
        constructor
        · rintro ⟨child, _, found, _, inside, rfl, rfl⟩
          exact ⟨child, found, inside⟩
        · rintro ⟨child, found, inside⟩
          exact ⟨child, number, found, rest, inside, rfl, rfl⟩
      rw [positions, List.mem_cons, below]
      cases found : children[number]? with
      | none => simp [subtree?_cons_of_no_child found]
      | some child =>
        rw [subtree?_cons_of_child found, ← ih child (List.mem_of_getElem? found)]
        simp

/-- The positions in a tree rise in the order of words: a node stands before the nodes below it, and
these before the ones below later children. -/
theorem pairwise_positions (tree : PropertyTree) : tree.positions.Pairwise (List.Lex (· < ·)) := by
  induction tree using PropertyTree.induction with
  | leaf property => exact List.pairwise_singleton _ _
  | inner property children ih =>
    have numbered : children.zipIdx.Pairwise fun left right => left.2 < right.2 := by
      rw [← List.pairwise_map (f := Prod.snd) (R := (· < ·)), List.zipIdx_map_snd]
      exact List.pairwise_lt_range'
    rw [positions, childPositions_eq, List.pairwise_cons, List.pairwise_flatMap]
    -- The root is before all others; within one child the children's own order decides, between two
    -- children their numbers do.
    refine ⟨?_, ?_, numbered.imp ?_⟩
    · intro position below
      obtain ⟨⟨child, number⟩, _, inside⟩ := List.mem_flatMap.mp below
      obtain ⟨rest, _, rfl⟩ := List.mem_map.mp inside
      exact .nil
    · rintro ⟨child, number⟩ member
      have among := List.mem_of_getElem? (List.mem_zipIdx_iff_getElem?.mp member)
      exact List.pairwise_map.mpr ((ih child among).imp .cons)
    · rintro ⟨left, first⟩ ⟨right, second⟩ rising one inLeft other inRight
      obtain ⟨_, _, rfl⟩ := List.mem_map.mp inLeft
      obtain ⟨_, _, rfl⟩ := List.mem_map.mp inRight
      exact .rel rising

end ApiWiring.PropertyTree
