import ApiWiring.Proofs.Tree.Visits

/-!
# What a fold takes up

A fold over a tree stops at each of its subtrees, with the path to it. The stops are those of the
positions in the tree, each once and in the order of the positions (`forall₂_stops`), and they are
all that a fold depends on (`fold_eq_foldl_stops`). The list of visits is the list of stops without
what is below each node. So what is known of positions is known of folds: parents come before what
is below them, paths go on from that of the root, and they differ where children are told apart.
-/
namespace ApiWiring.PropertyTree

universe u

variable {α : Type u} {property : InnerProperty} {children : List PropertyTree}

/-- The subtree at a position, with the path to it. -/
def stop? (root : AccessPath) (tree : PropertyTree) (position : List Nat) :
    Option (PropertyTree × AccessPath) :=
  (tree.subtree? position).map fun below => (below, tree.pathTo root position)

/-- The subtrees of a tree with the paths to them, in the order of their positions. -/
def stops (root : AccessPath) (tree : PropertyTree) : List (PropertyTree × AccessPath) :=
  tree.positions.filterMap (tree.stop? root)

/-- Every position has its stop. -/
theorem forall₂_stops (tree : PropertyTree) (root : AccessPath) :
    List.Forall₂ (fun position stop => tree.subtree? position = some stop.1 ∧
      tree.pathTo root position = stop.2) tree.positions (tree.stops root) := by
  have listed : ∀ among : List (List Nat),
      (∀ position ∈ among, (tree.subtree? position).isSome = true) →
        List.Forall₂ (fun position stop => tree.subtree? position = some stop.1 ∧
          tree.pathTo root position = stop.2) among (among.filterMap (tree.stop? root)) := by
    intro among inside
    induction among with
    | nil => exact .nil
    | cons position rest ih =>
      obtain ⟨here, later⟩ := List.forall_mem_cons.mp inside
      obtain ⟨below, found⟩ := Option.isSome_iff_exists.mp here
      have stop : tree.stop? root position = some (below, tree.pathTo root position) := by
        rw [stop?, found, Option.map_some]
      rw [List.filterMap_cons_some stop]
      exact .cons ⟨found, rfl⟩ (ih later)
  exact listed tree.positions fun position member => mem_positions_iff.mp member

/-- The first stop is the root of a tree, and then come those of the children of the root. -/
theorem stops_inner (root : AccessPath) (property : InnerProperty) (children : List PropertyTree) :
    (inner property children).stops root = (inner property children, root) ::
      children.flatMap fun child => child.stops (root.child (property.component child.name)) := by
  have below : ∀ child number, (child, number) ∈ children.zipIdx →
      (child.positions.map (number :: ·)).filterMap ((inner property children).stop? root) =
        child.stops (root.child (property.component child.name)) := by
    intro child number member
    have found : children[number]? = some child := List.mem_zipIdx_iff_getElem?.mp member
    rw [List.filterMap_map, stops]
    refine List.filterMap_congr fun rest _ => ?_
    rw [Function.comp_apply, stop?, stop?, subtree?_cons_of_child found, pathTo_cons_of_child found]
  have here : (inner property children).stop? root [] = some (inner property children, root) := rfl
  rw [stops, positions, List.filterMap_cons_some here, childPositions_eq, List.filterMap_flatMap,
    List.flatMap_congr fun numbered member => below numbered.1 numbered.2 member,
    ← List.flatMap_map Prod.fst fun child : PropertyTree =>
      child.stops (root.child (property.component child.name)), List.zipIdx_map_fst]

/-- A fold takes up the stops of the tree. -/
theorem fold_eq_foldl_stops (step : α → PropertyTree → AccessPath → α) (root : AccessPath)
    (init : α) (tree : PropertyTree) :
    tree.fold step root init =
      (tree.stops root).foldl (fun made stop => step made stop.1 stop.2) init := by
  induction tree using PropertyTree.induction generalizing root init with
  | leaf property => rfl
  | inner property children ih =>
    rw [fold, foldChildren_eq, stops_inner, List.foldl_cons, List.foldl_flatMap]
    exact List.foldl_ext _ _ _ fun made child member => ih child member _ _

/-- The visits of a tree are its stops without what is below the nodes. -/
theorem visits_eq_map_stops (tree : PropertyTree) (root : AccessPath) :
    tree.visits root = (tree.stops root).map fun stop => (stop.2, stop.1.node) := by
  induction tree using PropertyTree.induction generalizing root with
  | leaf property => rfl
  | inner property children ih =>
    rw [visits, childVisits_eq, stops_inner, List.map_cons, List.map_flatMap, node]
    congr 1
    exact List.flatMap_congr fun child member => ih child member _

/-- The stops from a root are those from the empty path, the root put before every path. -/
theorem stops_eq_map (tree : PropertyTree) (root : AccessPath) :
    tree.stops root =
      (tree.stops .root).map fun stop => (stop.1, ⟨root.parts ++ stop.2.parts⟩) := by
  rw [stops, stops, List.map_filterMap]
  refine List.filterMap_congr fun position _ => ?_
  rw [stop?, stop?, Option.map_map]
  have path : tree.pathTo root position =
      ⟨root.parts ++ (tree.pathTo .root position).parts⟩ :=
    congrArg AccessPath.mk (parts_pathTo tree root position)
  rw [path]
  rfl

/-- A fold stops at every node of a tree once: its stops are those of the positions in the tree, in
the order of words, so that a node comes before the nodes below it and these before the ones below
later children; the visits are the same stops. The path to a stop is that of the root and one
component for each step to the position, the array marker below an array and the name of the child
elsewhere. So folding from a root is folding from the empty path and putting the root before every
path. If the children of all nodes that are no arrays have different names and arrays one child at
most, all paths are different. -/
theorem fold_in_preorder (tree : PropertyTree) (root : AccessPath)
    (step : α → PropertyTree → AccessPath → α) (init : α) :
    (∀ position, position ∈ tree.positions ↔ (tree.subtree? position).isSome = true) ∧
    tree.positions.Pairwise (List.Lex (· < ·)) ∧
    List.Forall₂ (fun position stop => tree.subtree? position = some stop.1 ∧
      tree.pathTo root position = stop.2) tree.positions (tree.stops root) ∧
    tree.fold step root init =
      (tree.stops root).foldl (fun made stop => step made stop.1 stop.2) init ∧
    tree.visits root = (tree.stops root).map (fun stop => (stop.2, stop.1.node)) ∧
    tree.pathTo root [] = root ∧
    (∀ position property children index child,
      tree.subtree? position = some (.inner property children) → children[index]? = some child →
        tree.pathTo root (position ++ [index]) = (tree.pathTo root position).child
          (if property.shape = .array then AccessPath.arrayItem else child.name)) ∧
    tree.fold step root init =
      tree.fold (fun made below path => step made below ⟨root.parts ++ path.parts⟩) .root init ∧
    (tree.ToldApart → ((tree.stops root).map (·.2)).Nodup) := by
  refine ⟨fun _ => mem_positions_iff, pairwise_positions tree, forall₂_stops tree root,
    fold_eq_foldl_stops step root init tree, visits_eq_map_stops tree root, pathTo_nil root tree,
    ?_, ?_, ?_⟩
  · intro position property children index child found listed
    rw [pathTo_child found listed, property.component_eq]
  · rw [fold_eq_foldl_stops, fold_eq_foldl_stops, stops_eq_map, List.foldl_map]
  · intro apart
    have visited := apart.nodup_visits root
    rwa [visits_eq_map_stops, List.map_map] at visited

/-- The rows of `markedBody`, an array of objects. -/
def rows : PropertyTree :=
  .inner ⟨"rows", none, .array, true, false⟩
    [.inner ⟨"", none, .object, true, false⟩ [.leaf (.plain "id" (.ofType .int))]]

/-- A body with a property that is called like the array marker, and an array. -/
def markedBody : PropertyTree :=
  .inner ⟨"", none, .object, true, false⟩ [.leaf (.plain "[0]" (.ofType .string)), rows]

/-- A fold over `markedBody` stops at its five nodes, and each of them has a path of its own. -/
theorem markedBody_fold_in_preorder :
    markedBody.ToldApart ∧
    markedBody.fold (fun made _ path => made ++ [path.pointer]) ⟨["b"]⟩ [] =
      ["/b", "/b/[0]", "/b/rows", "/b/rows/[0]", "/b/rows/[0]/id"] ∧
    markedBody.subtree? [1] = some rows ∧
    markedBody.pathTo ⟨["b"]⟩ [1, 0] = (markedBody.pathTo ⟨["b"]⟩ [1]).child "[0]" ∧
    ((markedBody.stops ⟨["b"]⟩).map (·.2)).Nodup := by
  have apart : markedBody.ToldApart := by
    refine toldApart_inner_iff.mpr ⟨⟨by decide, by decide⟩, ?_⟩
    intro child member
    rcases List.mem_pair.mp member with rfl | rfl
    · exact toldApart_leaf _
    · refine toldApart_inner_iff.mpr ⟨⟨by decide, by decide⟩, fun item only => ?_⟩
      obtain rfl := List.mem_singleton.mp only
      refine toldApart_inner_iff.mpr ⟨⟨by decide, by decide⟩, fun named last => ?_⟩
      obtain rfl := List.mem_singleton.mp last
      exact toldApart_leaf _
  have found : markedBody.subtree? [1] = some rows := rfl
  obtain ⟨_, _, _, _, _, _, step, _, distinct⟩ := fold_in_preorder markedBody ⟨["b"]⟩
    (fun made _ path => made ++ [path.pointer]) []
  exact ⟨apart, by decide +kernel, found, step [1] _ _ 0 _ found rfl, distinct apart⟩

end ApiWiring.PropertyTree
