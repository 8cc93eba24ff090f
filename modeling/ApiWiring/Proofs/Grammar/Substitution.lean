import ApiWiring.Grammar.Resolution
import ApiWiring.Proofs.Outcome
import ApiWiring.Proofs.Tree.Positions

/-!
# Where producers take over

A node of a parameter is supplied when the wiring has a producer for its access path, and it is
supplied first when no node above it is supplied. Resolution changes a tree at exactly these nodes:
the subtree there is replaced by what the producer sends, in the form the node asks for, and every
node that is neither supplied nor below a supplied one stays as it is (`Substituted`). It fails
exactly when one of these nodes cannot be replaced, and then the dictionary stays as it was.
-/
namespace ApiWiring.Resolution

/-- Whether the node at a position has a producer, when the root of the tree is at `root`. -/
def Supplied (source : Source) (root : AccessPath) (tree : PropertyTree) (position : List Nat) :
    Prop :=
  (tree.subtree? position).isSome ∧ (source.producer? (tree.pathTo root position)).isSome

/-- Whether the node at a position has a producer and no node above it has one. -/
def SuppliedFirst (source : Source) (root : AccessPath) (tree : PropertyTree)
    (position : List Nat) : Prop :=
  Supplied source root tree position ∧
    ∀ above, above <+: position → above ≠ position → ¬Supplied source root tree above

/-- Whether neither the node at a position nor a node above it has a producer. -/
def Untouched (source : Source) (root : AccessPath) (tree : PropertyTree) (position : List Nat) :
    Prop :=
  ∀ above, above <+: position → ¬Supplied source root tree above

/-- An array that has not exactly one form of item. -/
def IsUnfitArray : PropertyTree → Prop
  | .leaf _ => False
  | .inner property children => property.shape = .array ∧ children.length ≠ 1

/-- Whether the subtree at a path cannot be replaced by what its producer sends: it is an unfit
array, or the producer asks for the request's path where there is none. -/
def Blocked (source : Source) (path : AccessPath) (below : PropertyTree) : Prop :=
  IsUnfitArray below ∨
    (source.requestPath = none ∧ ∃ slot, source.producer? path = some (.sibling slot))

/-- What takes the place of a subtree: a leaf keeps all but its payload, an array keeps its property
around one item without a name, and any other node becomes a leaf of its name and its flags. -/
def replacement (payload : Payload) : PropertyTree → PropertyTree
  | .leaf property => .leaf { property with payload }
  | .inner property _ =>
    match property.shape with
    | .array => .inner property [.leaf (.plain "" payload)]
    | .object | .property =>
      .leaf ⟨property.name, payload, property.isRequired, property.isReadOnly⟩

/-- How a resolved tree comes from the tree given. -/
structure Substituted (source : Source) (root : AccessPath) (before after : PropertyTree) :
    Prop where
  /-- Away from the producers the nodes are the same, each with as many children. -/
  untouched : ∀ position, Untouched source root before position →
    (after.subtree? position).map PropertyTree.node =
      (before.subtree? position).map PropertyTree.node
  /-- Where a producer takes over, the subtree is replaced by what it sends. -/
  replaced : ∀ position below, before.subtree? position = some below →
    SuppliedFirst source root before position → ∃ producer payload,
      source.producer? (before.pathTo root position) = some producer ∧
        source.payload (before.pathTo root position) producer = .ok payload ∧
          after.subtree? position = some (replacement payload below)

variable {source : Source} {root : AccessPath}

/-- The root is supplied when its path has a producer. -/
@[simp] theorem supplied_nil {tree : PropertyTree} :
    Supplied source root tree [] ↔ (source.producer? root).isSome := by
  simp [Supplied]

/-- A node in a child is supplied when it is so in the child on its own. -/
theorem supplied_cons {property : InnerProperty} {children : List PropertyTree} {index : Nat}
    {child : PropertyTree} (found : children[index]? = some child) (rest : List Nat) :
    Supplied source root (.inner property children) (index :: rest) ↔
      Supplied source (root.child (property.component child.name)) child rest := by
  simp only [Supplied, PropertyTree.subtree?_cons_of_child found,
    PropertyTree.pathTo_cons_of_child found]

/-- The root is supplied first when it is supplied. -/
@[simp] theorem suppliedFirst_nil {tree : PropertyTree} :
    SuppliedFirst source root tree [] ↔ (source.producer? root).isSome := by
  constructor
  · intro first
    exact supplied_nil.mp first.1
  · intro present
    refine ⟨supplied_nil.mpr present, fun above leading different => ?_⟩
    exact absurd (List.prefix_nil.mp leading) different

/-- Below a supplied root nothing is supplied first. -/
theorem not_suppliedFirst_cons {tree : PropertyTree} (present : (source.producer? root).isSome)
    (index : Nat) (rest : List Nat) : ¬SuppliedFirst source root tree (index :: rest) := by
  intro first
  exact first.2 [] List.nil_prefix (List.cons_ne_nil index rest).symm (supplied_nil.mpr present)

/-- Below a root without producer, a node in a child is supplied first when it is so in the child
on its own. -/
theorem suppliedFirst_cons {property : InnerProperty} {children : List PropertyTree} {index : Nat}
    {child : PropertyTree} (absent : source.producer? root = none)
    (found : children[index]? = some child) (rest : List Nat) :
    SuppliedFirst source root (.inner property children) (index :: rest) ↔
      SuppliedFirst source (root.child (property.component child.name)) child rest := by
  constructor
  · rintro ⟨present, none⟩
    refine ⟨(supplied_cons found rest).mp present, fun above leading different => ?_⟩
    have further := none (index :: above) (List.cons_prefix_cons.mpr ⟨rfl, leading⟩)
      (fun same => different (List.cons.inj same).2)
    exact fun held => further ((supplied_cons found above).mpr held)
  · rintro ⟨present, none⟩
    refine ⟨(supplied_cons found rest).mpr present, fun above leading different => ?_⟩
    cases above with
    | nil => simp [absent]
    | cons first later =>
      obtain ⟨rfl, deeper⟩ := List.cons_prefix_cons.mp leading
      rw [supplied_cons found later]
      exact none later deeper (fun same => different (same ▸ rfl))

/-- Below a root without producer, a node in a child is untouched when it is so in the child on its
own. -/
theorem untouched_cons {property : InnerProperty} {children : List PropertyTree} {index : Nat}
    {child : PropertyTree} (absent : source.producer? root = none)
    (found : children[index]? = some child) (rest : List Nat) :
    Untouched source root (.inner property children) (index :: rest) ↔
      Untouched source (root.child (property.component child.name)) child rest := by
  constructor
  · intro free above leading held
    exact free (index :: above) (List.cons_prefix_cons.mpr ⟨rfl, leading⟩)
      ((supplied_cons found above).mpr held)
  · intro free above leading
    cases above with
    | nil => simp [absent]
    | cons first later =>
      obtain ⟨rfl, deeper⟩ := List.cons_prefix_cons.mp leading
      rw [supplied_cons found later]
      exact free later deeper

/-- The root of a tree with an untouched node has no producer. -/
theorem producer_none_of_untouched {tree : PropertyTree} {position : List Nat}
    (free : Untouched source root tree position) : source.producer? root = none := by
  have absent := free [] List.nil_prefix
  rw [supplied_nil] at absent
  simpa using absent

/-- What a producer sends fails to exist exactly when it asks for a request path that is missing. -/
theorem payload_fails_iff {path : AccessPath} {producer : Producer} :
    (∃ failure, source.payload path producer = .error failure) ↔
      source.requestPath = none ∧ ∃ slot, producer = .sibling slot := by
  cases producer with
  | response slot => simp [Source.payload, producerPayload]
  | dictionary entry => simp [Source.payload, producerPayload]
  | sibling slot =>
    cases given : source.requestPath <;> simp [Source.payload, producerPayload, given]

/-- At a supplied root the tree becomes what its producer sends, unless it is an unfit array. -/
theorem tree_of_supplied {before : PropertyTree} {producer : Producer}
    (present : source.producer? root = some producer) (after : PropertyTree) :
    tree source root before = .ok after ↔
      ¬IsUnfitArray before ∧ ∃ payload, source.payload root producer = .ok payload ∧
        after = replacement payload before := by
  cases before with
  | leaf property =>
    simp only [tree, present, Outcome.bind_eq_ok_iff]
    constructor
    · rintro ⟨payload, sent, built⟩
      cases built
      exact ⟨id, payload, sent, rfl⟩
    · rintro ⟨_, payload, sent, rfl⟩
      exact ⟨payload, sent, rfl⟩
  | inner property children =>
    simp only [tree, present, Outcome.bind_eq_ok_iff, IsUnfitArray, collapsed, replacement]
    cases property.shape with
    | array =>
      by_cases fit : children.length = 1
      · simp [fit, eq_comm]
      · simp [fit]
    | object => simp [eq_comm]
    | property => simp [eq_comm]

/-- At a supplied root resolution fails exactly when the root is blocked. -/
theorem tree_fails_of_supplied {before : PropertyTree} {producer : Producer}
    (present : source.producer? root = some producer) :
    (∃ failure, tree source root before = .error failure) ↔ Blocked source root before := by
  have sends : (∃ payload, source.payload root producer = .ok payload) ↔
      ¬(source.requestPath = none ∧ ∃ slot, producer = .sibling slot) := by
    rw [← payload_fails_iff, Outcome.fails_iff, Classical.not_not]
  have succeeds : (∃ after, tree source root before = .ok after) ↔
      ¬IsUnfitArray before ∧ ∃ payload, source.payload root producer = .ok payload := by
    simp only [tree_of_supplied present]
    constructor
    · rintro ⟨after, fit, payload, sent, _⟩
      exact ⟨fit, payload, sent⟩
    · rintro ⟨fit, payload, sent⟩
      exact ⟨_, fit, payload, sent, rfl⟩
  rw [Outcome.fails_iff, succeeds, sends, Blocked, present]
  simp only [Option.some.injEq]
  tauto

/-- Below a supplied root the only node that is supplied first is the root. -/
theorem blocked_position_of_supplied {before : PropertyTree}
    (present : (source.producer? root).isSome) :
    (∃ position below, before.subtree? position = some below ∧
        SuppliedFirst source root before position ∧
          Blocked source (before.pathTo root position) below) ↔ Blocked source root before := by
  constructor
  · rintro ⟨position, below, found, first, blocked⟩
    cases position with
    | nil =>
      rw [PropertyTree.subtree?_nil, Option.some.injEq] at found
      subst found
      rwa [PropertyTree.pathTo_nil] at blocked
    | cons index rest => exact absurd first (not_suppliedFirst_cons present index rest)
  · intro blocked
    refine ⟨[], before, PropertyTree.subtree?_nil before, suppliedFirst_nil.mpr present, ?_⟩
    rwa [PropertyTree.pathTo_nil]

/-- The children of a node are resolved one by one. -/
theorem trees_eq_mapM (property : InnerProperty) (children : List PropertyTree) :
    trees source root property children =
      children.mapM fun child =>
        tree source (root.child (property.component child.name)) child := by
  induction children with
  | nil => rfl
  | cons child rest ih => rw [trees, ih, List.mapM_cons]

/-- Resolution of a tree fails exactly when a node that is supplied first is blocked. -/
theorem tree_fails_iff (source : Source) (root : AccessPath) (before : PropertyTree) :
    (∃ failure, tree source root before = .error failure) ↔
      ∃ position below, before.subtree? position = some below ∧
        SuppliedFirst source root before position ∧
          Blocked source (before.pathTo root position) below := by
  induction before using PropertyTree.induction generalizing root with
  | leaf property =>
    cases present : source.producer? root with
    | some producer =>
      rw [tree_fails_of_supplied present, blocked_position_of_supplied (by simp [present])]
    | none =>
      simp only [tree, present]
      constructor
      · rintro ⟨failure, failed⟩
        cases failed
      · rintro ⟨position, below, found, first, _⟩
        cases position with
        | nil => simp [present] at first
        | cons index rest => simp at found
  | inner property children ih =>
    cases present : source.producer? root with
    | some producer =>
      rw [tree_fails_of_supplied present, blocked_position_of_supplied (by simp [present])]
    | none =>
      have each : (∃ failure, tree source root (.inner property children) = .error failure) ↔
          ∃ child ∈ children, ∃ failure,
            tree source (root.child (property.component child.name)) child = .error failure := by
        rw [← Outcome.mapM_fails_iff, ← trees_eq_mapM]
        simp only [tree, present, Outcome.bind_eq_error_iff]
        simp [pure, Except.pure]
      rw [each]
      constructor
      · rintro ⟨child, member, failed⟩
        obtain ⟨index, found⟩ := List.mem_iff_getElem?.mp member
        obtain ⟨position, below, inside, first, blocked⟩ := (ih child member _).mp failed
        refine ⟨index :: position, below, ?_, ?_, ?_⟩
        · rwa [PropertyTree.subtree?_cons_of_child found]
        · rwa [suppliedFirst_cons present found]
        · rwa [PropertyTree.pathTo_cons_of_child found]
      · rintro ⟨position, below, inside, first, blocked⟩
        cases position with
        | nil => simp [present] at first
        | cons index rest =>
          cases found : children[index]? with
          | none => simp [PropertyTree.subtree?_cons_of_no_child found] at inside
          | some child =>
            rw [PropertyTree.subtree?_cons_of_child found] at inside
            rw [suppliedFirst_cons present found] at first
            rw [PropertyTree.pathTo_cons_of_child found] at blocked
            have member : child ∈ children := List.mem_of_getElem? found
            exact ⟨child, member, (ih child member _).mpr ⟨rest, below, inside, first, blocked⟩⟩

/-- At a supplied root the whole tree is replaced. -/
theorem substituted_of_supplied {before : PropertyTree} {producer : Producer} {payload : Payload}
    (present : source.producer? root = some producer)
    (sent : source.payload root producer = .ok payload) :
    Substituted source root before (replacement payload before) where
  untouched position free := by
    have absent := producer_none_of_untouched free
    rw [present] at absent
    cases absent
  replaced position below found first := by
    cases position with
    | nil =>
      rw [PropertyTree.subtree?_nil, Option.some.injEq] at found
      subst found
      rw [PropertyTree.pathTo_nil, PropertyTree.subtree?_nil]
      exact ⟨producer, payload, present, sent, rfl⟩
    | cons index rest =>
      exact absurd first (not_suppliedFirst_cons (by simp [present]) index rest)

/-- A node whose children are substituted one by one is substituted. -/
theorem substituted_of_children {property : InnerProperty} {before after : List PropertyTree}
    (absent : source.producer? root = none)
    (each : List.Forall₂
      (fun child result =>
        Substituted source (root.child (property.component child.name)) child result)
      before after) :
    Substituted source root (.inner property before) (.inner property after) where
  untouched position free := by
    cases position with
    | nil => simp [PropertyTree.node, each.length_eq]
    | cons index rest =>
      obtain ⟨found, made⟩ | ⟨child, result, found, made, substituted⟩ :=
        Outcome.getElem?_of_forall₂ each index
      · rw [PropertyTree.subtree?_cons_of_no_child found,
          PropertyTree.subtree?_cons_of_no_child made]
      · rw [PropertyTree.subtree?_cons_of_child found, PropertyTree.subtree?_cons_of_child made]
        exact substituted.untouched rest ((untouched_cons absent found rest).mp free)
  replaced position below inside first := by
    cases position with
    | nil => simp [absent] at first
    | cons index rest =>
      obtain ⟨found, made⟩ | ⟨child, result, found, made, substituted⟩ :=
        Outcome.getElem?_of_forall₂ each index
      · simp [PropertyTree.subtree?_cons_of_no_child found] at inside
      · rw [PropertyTree.subtree?_cons_of_child found] at inside
        rw [suppliedFirst_cons absent found] at first
        rw [PropertyTree.pathTo_cons_of_child found, PropertyTree.subtree?_cons_of_child made]
        exact substituted.replaced rest below inside first

/-- A tree that is resolved is substituted where it is supplied first, and nowhere else. -/
theorem substituted_of_tree {before after : PropertyTree}
    (resolved : tree source root before = .ok after) : Substituted source root before after := by
  induction before using PropertyTree.induction generalizing root after with
  | leaf property =>
    cases present : source.producer? root with
    | some producer =>
      obtain ⟨_, payload, sent, rfl⟩ := (tree_of_supplied present after).mp resolved
      exact substituted_of_supplied present sent
    | none =>
      simp only [tree, present, Except.ok.injEq] at resolved
      subst resolved
      refine ⟨fun position free => rfl, fun position below found first => ?_⟩
      cases position with
      | nil => simp [present] at first
      | cons index rest => simp at found
  | inner property children ih =>
    cases present : source.producer? root with
    | some producer =>
      obtain ⟨_, payload, sent, rfl⟩ := (tree_of_supplied present after).mp resolved
      exact substituted_of_supplied present sent
    | none =>
      simp only [tree, present] at resolved
      obtain ⟨results, each, built⟩ := Outcome.bind_eq_ok_iff.mp resolved
      cases built
      rw [trees_eq_mapM, Outcome.mapM_eq_ok_iff] at each
      have both := List.forall₂_and_left _ _ |>.mpr ⟨ih, each⟩
      exact substituted_of_children present (both.imp fun child result => fun ⟨kept, done⟩ =>
        kept done)

/-- A root without producer is untouched. -/
theorem untouched_nil {tree : PropertyTree} (absent : source.producer? root = none) :
    Untouched source root tree [] := by
  intro above leading
  rw [List.prefix_nil.mp leading, supplied_nil, absent]
  simp

/-- The children of a substituted node without producer are substituted one by one. -/
theorem Substituted.child {property other : InnerProperty} {before after : List PropertyTree}
    {index : Nat} {child result : PropertyTree}
    (whole : Substituted source root (.inner property before) (.inner other after))
    (absent : source.producer? root = none) (found : before[index]? = some child)
    (made : after[index]? = some result) :
    Substituted source (root.child (property.component child.name)) child result where
  untouched position free := by
    have same := whole.untouched (index :: position)
      ((untouched_cons absent found position).mpr free)
    rwa [PropertyTree.subtree?_cons_of_child made,
      PropertyTree.subtree?_cons_of_child found] at same
  replaced position below inside first := by
    have taken := whole.replaced (index :: position) below
      ((PropertyTree.subtree?_cons_of_child found position).trans inside)
      ((suppliedFirst_cons absent found position).mpr first)
    rwa [PropertyTree.pathTo_cons_of_child found, PropertyTree.subtree?_cons_of_child made] at taken

/-- A substituted tree whose root has no producer has the node of the tree given at its root. -/
theorem Substituted.node_eq {before after : PropertyTree}
    (whole : Substituted source root before after) (absent : source.producer? root = none) :
    after.node = before.node := by
  have same := whole.untouched [] (untouched_nil absent)
  simpa using same

/-- At most one tree is substituted for a tree whose root has a producer. -/
theorem Substituted.unique_of_supplied {before left right : PropertyTree}
    (first : Substituted source root before left) (second : Substituted source root before right)
    (present : (source.producer? root).isSome) : left = right := by
  have atRoot : SuppliedFirst source root before [] := suppliedFirst_nil.mpr present
  have found := PropertyTree.subtree?_nil before
  obtain ⟨producer, payload, known, sent, made⟩ := first.replaced [] before found atRoot
  obtain ⟨other, sending, same, sends, built⟩ := second.replaced [] before found atRoot
  obtain rfl : producer = other := Option.some.inj (known.symm.trans same)
  obtain rfl : payload = sending := Except.ok.inj (sent.symm.trans sends)
  rw [PropertyTree.subtree?_nil, Option.some.injEq] at made built
  exact made.trans built.symm

/-- At most one tree is substituted for a tree. -/
theorem Substituted.unique {before left right : PropertyTree}
    (first : Substituted source root before left) (second : Substituted source root before right) :
    left = right := by
  induction before using PropertyTree.induction generalizing root left right with
  | leaf property =>
    cases present : source.producer? root with
    | some producer => exact first.unique_of_supplied second (by simp [present])
    | none =>
      have leftNode := first.node_eq present
      have rightNode := second.node_eq present
      cases left with
      | inner other children => cases leftNode
      | leaf other =>
        cases right with
        | inner another children => cases rightNode
        | leaf another =>
          cases leftNode
          cases rightNode
          rfl
  | inner property children ih =>
    cases present : source.producer? root with
    | some producer => exact first.unique_of_supplied second (by simp [present])
    | none =>
      have leftNode := first.node_eq present
      have rightNode := second.node_eq present
      cases left with
      | leaf other => cases leftNode
      | inner other lefts =>
        cases right with
        | leaf another => cases rightNode
        | inner another rights =>
          simp only [PropertyTree.node, PropertyNode.inner.injEq] at leftNode rightNode
          obtain ⟨rfl, leftCount⟩ := leftNode
          obtain ⟨rfl, rightCount⟩ := rightNode
          congr 1
          refine List.ext_getElem (by omega) fun index inLeft inRight => ?_
          have inside : index < children.length := by omega
          have found := List.getElem?_eq_getElem inside
          exact ih _ (List.getElem_mem inside)
            (first.child present found (List.getElem?_eq_getElem inLeft))
            (second.child present found (List.getElem?_eq_getElem inRight))

/-- Resolution of a parameter fails exactly when a node that is supplied first is an array without
exactly one form of item, or is supplied from its own body where no path of the request is given;
the dictionary is then as it was. Otherwise the parameter keeps its name, and its tree is the one
tree that comes from the tree given by replacing the subtree of each node that is supplied first by
what its producer sends and keeping all other nodes. -/
theorem attempt_outcome (source : Source) (dictionary : Dictionary) (given : Parameter) :
    ((∃ failure, (attempt source dictionary given).1 = .error failure) ↔
      ∃ position below, given.payload.subtree? position = some below ∧
        SuppliedFirst source (rootOf source.kind given.name) given.payload position ∧
          Blocked source (given.payload.pathTo (rootOf source.kind given.name) position) below) ∧
    (∀ failure, (attempt source dictionary given).1 = .error failure →
      (attempt source dictionary given).2 = dictionary) ∧
    ∀ resolved, (attempt source dictionary given).1 = .ok resolved →
      resolved.name = given.name ∧
        ∀ after, Substituted source (rootOf source.kind given.name) given.payload after ↔
          after = resolved.payload := by
  rw [← tree_fails_iff]
  cases made : tree source (rootOf source.kind given.name) given.payload with
  | error failure =>
    have stopped : parameter source given = .error failure := by
      simp [parameter, made, bind, Except.bind]
    simp [attempt, stopped]
  | ok resolved =>
    have done : parameter source given = .ok { given with payload := resolved } := by
      simp [parameter, made, bind, Except.bind, pure, Except.pure]
    simp only [attempt, done, reduceCtorEq, exists_false, Except.ok.injEq, false_implies,
      implies_true, forall_eq', true_and]
    intro after
    have substituted := substituted_of_tree made
    constructor
    · intro other
      exact other.unique substituted
    · rintro rfl
      exact substituted

end ApiWiring.Resolution
