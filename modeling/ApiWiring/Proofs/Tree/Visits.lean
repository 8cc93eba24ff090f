import ApiWiring.Proofs.Tree.Positions
import Mathlib.Data.List.Nodup

/-!
# The visits of a tree

A tree is visited at its positions: every visit is that of the node at some position, with the path
to it, and every position is visited. Several positions may have one path. They have none in common
when the children of each node are reached by different components (`ToldApart`): the names of the
children differ, or the node is an array with one form of item at most.
-/
namespace ApiWiring.PropertyTree

variable {property : InnerProperty} {children : List PropertyTree}

/-- A visit below an inner node is a visit of one of its children. -/
theorem mem_childVisits_iff {root path : AccessPath} {node : PropertyNode} :
    (path, node) ∈ childVisits root property children ↔ ∃ child ∈ children,
      (path, node) ∈ child.visits (root.child (property.component child.name)) := by
  rw [childVisits_eq, List.mem_flatMap]

/-- A tree is visited at its positions. -/
theorem mem_visits_iff {tree : PropertyTree} {root path : AccessPath} {node : PropertyNode} :
    (path, node) ∈ tree.visits root ↔ ∃ position below, tree.subtree? position = some below ∧
      tree.pathTo root position = path ∧ below.node = node := by
  induction tree using PropertyTree.induction generalizing root with
  | leaf property =>
    constructor
    · intro visited
      cases List.mem_singleton.mp visited
      exact ⟨[], _, subtree?_nil _, pathTo_nil _ _, rfl⟩
    · rintro ⟨position, below, found, rfl, rfl⟩
      cases position with
      | nil =>
        cases found
        exact List.mem_singleton.mpr rfl
      | cons index rest => simp at found
  | inner property children ih =>
    rw [visits, List.mem_cons, mem_childVisits_iff]
    constructor
    · rintro (here | ⟨child, member, visited⟩)
      · cases here
        exact ⟨[], _, subtree?_nil _, pathTo_nil _ _, rfl⟩
      · obtain ⟨index, found⟩ := List.mem_iff_getElem?.mp member
        obtain ⟨rest, below, inside, rfl, rfl⟩ := (ih child member).mp visited
        refine ⟨index :: rest, below, ?_, ?_, rfl⟩
        · rwa [subtree?_cons_of_child found]
        · rw [pathTo_cons_of_child found]
    · rintro ⟨position, below, inside, rfl, rfl⟩
      cases position with
      | nil =>
        cases inside
        exact .inl (by rw [pathTo_nil]; rfl)
      | cons index rest =>
        cases found : children[index]? with
        | none => simp [subtree?_cons_of_no_child found] at inside
        | some child =>
          have member := List.mem_of_getElem? found
          rw [subtree?_cons_of_child found] at inside
          refine .inr ⟨child, member, (ih child member).mpr ⟨rest, below, inside, ?_, rfl⟩⟩
          rw [pathTo_cons_of_child found]

/-- Every path of a tree goes on from that of its root. -/
theorem prefix_of_mem_visits {tree : PropertyTree} {root path : AccessPath} {node : PropertyNode}
    (visited : (path, node) ∈ tree.visits root) : root.parts <+: path.parts := by
  induction tree using PropertyTree.induction generalizing root with
  | leaf property =>
    cases List.mem_singleton.mp visited
    exact List.prefix_rfl
  | inner property children ih =>
    rw [visits, List.mem_cons, mem_childVisits_iff] at visited
    rcases visited with here | ⟨child, member, below⟩
    · cases here
      exact List.prefix_rfl
    · exact (List.prefix_append _ _).trans (ih child member below)

/-! ## Different paths -/

/-- Whether the children of a node are reached by different components. -/
def SiblingsApart (property : InnerProperty) (children : List PropertyTree) : Prop :=
  (property.shape = .array → children.length ≤ 1) ∧
    (property.shape ≠ .array → (children.map (·.name)).Nodup)

/-- Whether the children of each node of a tree are reached by different components. -/
def ToldApart (tree : PropertyTree) : Prop :=
  ∀ position property children, tree.subtree? position = some (.inner property children) →
    SiblingsApart property children

/-- A leaf has no children to tell apart. -/
theorem toldApart_leaf (property : LeafProperty) : (leaf property).ToldApart := by
  intro position inner children found
  cases position with
  | nil => cases found
  | cons index rest => simp at found

/-- The children of all nodes are told apart when those of the root and those of the nodes in each
child are. -/
theorem toldApart_inner_iff : (inner property children).ToldApart ↔
    SiblingsApart property children ∧ ∀ child ∈ children, child.ToldApart := by
  constructor
  · intro apart
    refine ⟨apart [] property children rfl, fun child member => ?_⟩
    obtain ⟨index, found⟩ := List.mem_iff_getElem?.mp member
    intro position other others inside
    exact apart (index :: position) other others ((subtree?_cons_of_child found _).trans inside)
  · rintro ⟨here, each⟩ position other others inside
    cases position with
    | nil =>
      cases inside
      exact here
    | cons index rest =>
      cases found : children[index]? with
      | none => simp [subtree?_cons_of_no_child found] at inside
      | some child =>
        rw [subtree?_cons_of_child found] at inside
        exact each child (List.mem_of_getElem? found) rest other others inside

/-- Children told apart have different components. -/
theorem SiblingsApart.nodup_components (apart : SiblingsApart property children) :
    (children.map fun child => property.component child.name).Nodup := by
  by_cases array : property.shape = .array
  · have few := apart.1 array
    match children, few with
    | [], _ => exact List.nodup_nil
    | [child], _ => exact List.nodup_singleton _
  · have named : (fun child : PropertyTree => property.component child.name) = (·.name) := by
      funext child
      rw [property.component_eq, if_neg array]
    rw [named]
    exact apart.2 array

/-- In a tree whose nodes tell their children apart no path is visited twice. -/
theorem ToldApart.nodup_visits {tree : PropertyTree} (apart : tree.ToldApart) (root : AccessPath) :
    ((tree.visits root).map (·.1)).Nodup := by
  induction tree using PropertyTree.induction generalizing root with
  | leaf property => exact List.nodup_singleton _
  | inner property children ih =>
    obtain ⟨here, each⟩ := toldApart_inner_iff.mp apart
    have longer : ∀ {child : PropertyTree} {path : AccessPath},
        path ∈ (child.visits (root.child (property.component child.name))).map (·.1) →
          root.parts ++ [property.component child.name] <+: path.parts := by
      intro child path visited
      obtain ⟨⟨other, node⟩, inside, rfl⟩ := List.mem_map.mp visited
      exact prefix_of_mem_visits inside
    rw [visits, List.map_cons, childVisits_eq, List.map_flatMap, List.nodup_cons,
      List.nodup_flatMap]
    refine ⟨?_, fun child member => ih child member (each child member) _, ?_⟩
    · -- The path of the root is shorter than any below it.
      intro again
      obtain ⟨child, _, visited⟩ := List.mem_flatMap.mp again
      have grown := (longer visited).length_le
      rw [List.length_append, List.length_singleton] at grown
      exact Nat.not_succ_le_self _ grown
    · refine (List.pairwise_map.mp here.nodup_components).imp fun {left right} differ => ?_
      intro path inLeft inRight
      have same := List.prefix_of_prefix_length_le (longer inLeft) (longer inRight) (by simp)
      exact differ (by simpa using same.eq_of_length (by simp))

end ApiWiring.PropertyTree
