import ApiWiring.Proofs.Grammar.Building

/-!
# Why a grammar cannot be built

A path whose parameters are single values always has its parts, unless one of them is supplied from
a body: resolution leaves a single value a single value. Where the path of the request is known, a
tree fails to be resolved only for an array that is supplied first and has not exactly one form of
item, and the failure says which array that is. So a grammar whose requests all have paths cannot be
built for this reason only, and exactly where there is such an array in what a request selects.
-/
namespace ApiWiring

namespace Resolution

variable {source : Source} {wiring : Wiring} {failure : Failure}

/-! ## Paths -/

/-- A single value that is not supplied from a body is resolved to a single value. -/
theorem tree_of_leaf {root : AccessPath}
    (plain : ∀ slot, source.producer? root ≠ some (.sibling slot)) (property : LeafProperty) :
    ∃ made, tree source root (.leaf property) = .ok (.leaf made) := by
  rw [tree]
  cases present : source.producer? root with
  | none => exact ⟨property, rfl⟩
  | some producer =>
    cases producer with
    | response slot => exact ⟨_, rfl⟩
    | dictionary entry => exact ⟨_, rfl⟩
    | sibling slot => exact absurd present (plain slot)

/-- What is sent for a path parameter that is a single value and is not supplied from a body is
found. -/
theorem segmentWith_succeeds {request : RequestId} {given : Parameter} {property : LeafProperty}
    (single : given.payload = .leaf property)
    (plain : ∀ path slot, wiring.producerFor? request .path path ≠ some (.sibling slot))
    (dictionary : Dictionary) :
    ∃ payload after, segmentWith wiring request dictionary given = (.ok payload, after) := by
  obtain ⟨made, resolved⟩ : ∃ made, tree ⟨wiring, request, .path, none⟩
      (rootOf .path given.name) (.leaf property) = .ok (.leaf made) := by
    refine tree_of_leaf (fun slot => ?_) property
    exact plain _ slot
  have done : parameter ⟨wiring, request, .path, none⟩ given =
      .ok { given with payload := .leaf made } := by
    rw [parameter, single, resolved]
    rfl
  rw [segmentWith, attempt, done]
  exact ⟨_, _, rfl⟩

/-- The path of a request whose path parameters are single values that are not supplied from a body
has its parts, whatever is in the dictionary. -/
theorem path_succeeds {request : Request}
    (single : ∀ given ∈ request.pathParameters, ∃ property, given.payload = .leaf property)
    (plain : ∀ path slot, wiring.producerFor? request.id .path path ≠ some (.sibling slot)) :
    ∃ parts, ∀ dictionary, (path wiring request dictionary).parts = .ok parts := by
  have segments : ∀ (segments : List String) (dictionary : Dictionary),
      ∃ parts, (segmentsWith wiring request dictionary segments).parts = .ok parts := by
    intro segments
    induction segments with
    | nil => exact fun _ => ⟨_, rfl⟩
    | cons segment rest ih =>
      intro dictionary
      have extend : ∀ (middle : Dictionary) (payload : Payload), ∃ parts,
          (segmentsWith wiring request middle rest).parts.map ([.text "/", payload] ++ ·) =
            .ok parts := by
        intro middle payload
        obtain ⟨others, later⟩ := ih middle
        exact ⟨_, Outcome.map_eq_ok_iff.mpr ⟨others, later, rfl⟩⟩
      unfold segmentsWith
      split
      · exact extend _ _
      · split
        · exact extend _ _
        · rename_i given found
          obtain ⟨property, leaf⟩ := single given (List.mem_of_find?_eq_some found)
          obtain ⟨payload, middle, sent⟩ := segmentWith_succeeds leaf plain dictionary
          rw [sent]
          exact extend _ _
  obtain ⟨parts, made⟩ := segments (Text.segments request.id.endpoint) .empty
  refine ⟨parts, fun dictionary => ?_⟩
  rw [← made]
  exact parts_segmentsWith_congr (fun _ _ => rfl) _ _ _

/-! ## Arrays -/

/-- Whether the node at a position is an array that is supplied first and has not exactly one form
of item. -/
def UnfitAt (source : Source) (root : AccessPath) (before : PropertyTree) (position : List Nat)
    (count : Nat) : Prop :=
  SuppliedFirst source root before position ∧ ∃ property children,
    before.subtree? position = some (.inner property children) ∧ property.shape = .array ∧
      children.length ≠ 1 ∧ children.length = count

/-- Below a root without producer, an unfit array in a child is one in the child on its own. -/
theorem unfitAt_cons {root : AccessPath} {property : InnerProperty}
    {children : List PropertyTree} {index count : Nat} {child : PropertyTree}
    (absent : source.producer? root = none) (found : children[index]? = some child)
    (rest : List Nat) : UnfitAt source root (.inner property children) (index :: rest) count ↔
      UnfitAt source (root.child (property.component child.name)) child rest count := by
  rw [UnfitAt, UnfitAt, suppliedFirst_cons absent found, PropertyTree.subtree?_cons_of_child found]

/-- Where the path of the request is known, every producer has something to send. -/
theorem payload_succeeds {parts : List Payload} (known : source.requestPath = some parts)
    (path : AccessPath) (producer : Producer) :
    ∃ payload, source.payload path producer = .ok payload := by
  by_contra missing
  have lacking := payload_fails_iff.mp (Outcome.fails_iff.mpr missing)
  rw [known] at lacking
  cases lacking.1

/-- An inner node that cannot be replaced is an array that has not exactly one form of item. -/
theorem collapsed_eq_error {request : RequestId} {path : AccessPath} {property : InnerProperty}
    {count : Nat} {payload : Payload}
    (failed : collapsed request path property count payload = .error failure) :
    property.shape = .array ∧ count ≠ 1 ∧ failure = .itemCardinality request path count := by
  unfold collapsed at failed
  split at failed
  · rename_i array
    split at failed
    · cases failed
    · rename_i unfit
      cases failed
      exact ⟨array, unfit, rfl⟩
  · cases failed
  · cases failed

/-- Where the path of the request is known, a tree that fails at a supplied root is an unfit
array. -/
theorem unfitAt_nil_of_tree_eq_error {parts : List Payload}
    (known : source.requestPath = some parts) {root : AccessPath} {producer : Producer}
    (present : source.producer? root = some producer) {before : PropertyTree}
    (failed : tree source root before = .error failure) :
    ∃ count, UnfitAt source root before [] count ∧
      failure = .itemCardinality source.request root count := by
  obtain ⟨payload, sent⟩ := payload_succeeds known root producer
  cases before with
  | leaf property =>
    simp only [tree, present, sent] at failed
    cases failed
  | inner property children =>
    simp only [tree, present, sent] at failed
    obtain ⟨array, unfit, rfl⟩ := collapsed_eq_error failed
    have first : SuppliedFirst source root (.inner property children) [] :=
      suppliedFirst_nil.mpr (Option.isSome_of_eq_some present)
    exact ⟨children.length, ⟨first, property, children, rfl, array, unfit, rfl⟩, rfl⟩

/-- Where the path of the request is known, the failure of a tree names an unfit array. -/
theorem unfitAt_of_tree_eq_error {parts : List Payload} (known : source.requestPath = some parts)
    {root : AccessPath} {before : PropertyTree}
    (failed : tree source root before = .error failure) :
    ∃ position count, UnfitAt source root before position count ∧
      failure = .itemCardinality source.request (before.pathTo root position) count := by
  induction before using PropertyTree.induction generalizing root with
  | leaf property =>
    cases present : source.producer? root with
    | some producer => exact ⟨[], unfitAt_nil_of_tree_eq_error known present failed⟩
    | none =>
      simp only [tree, present] at failed
      cases failed
  | inner property children ih =>
    cases present : source.producer? root with
    | some producer =>
      obtain ⟨count, unfit, rfl⟩ := unfitAt_nil_of_tree_eq_error known present failed
      exact ⟨[], count, unfit, by rw [PropertyTree.pathTo_nil]⟩
    | none =>
      simp only [tree, present, trees_eq_mapM] at failed
      rcases Outcome.bind_eq_error_iff.mp failed with stopped | ⟨_, _, built⟩
      · obtain ⟨child, member, below⟩ := Outcome.exists_of_mapM_eq_error stopped
        obtain ⟨index, found⟩ := List.mem_iff_getElem?.mp member
        obtain ⟨position, count, unfit, rfl⟩ := ih child member below
        refine ⟨index :: position, count, (unfitAt_cons present found position).mpr unfit, ?_⟩
        rw [PropertyTree.pathTo_cons_of_child found]
      · cases built

/-- A tree with an unfit array is not resolved. -/
theorem tree_ne_ok_of_unfitAt {root : AccessPath} {before after : PropertyTree}
    {position : List Nat} {count : Nat} (unfit : UnfitAt source root before position count) :
    tree source root before ≠ .ok after := by
  intro resolved
  obtain ⟨first, property, children, found, array, several, _⟩ := unfit
  obtain ⟨failure, failed⟩ := (tree_fails_iff source root before).mpr
    ⟨position, _, found, first, .inl ⟨array, several⟩⟩
  rw [resolved] at failed
  cases failed

/-- The failure of a parameter is that of its tree. -/
theorem tree_of_parameter_eq_error {given : Parameter}
    (failed : parameter source given = .error failure) :
    tree source (rootOf source.kind given.name) given.payload = .error failure := by
  rcases Outcome.bind_eq_error_iff.mp failed with stopped | ⟨_, _, built⟩
  · exact stopped
  · cases built

/-- The failure of parameters resolved in turn is that of one of their trees. -/
theorem exists_of_parametersWith_eq_error {given : List Parameter} {dictionary : Dictionary}
    (failed : parametersWith source dictionary given = .error failure) :
    ∃ parameter ∈ given,
      tree source (rootOf source.kind parameter.name) parameter.payload = .error failure := by
  induction given generalizing dictionary with
  | nil => cases failed
  | cons first rest ih =>
    rcases Outcome.bind_eq_error_iff.mp failed with stopped | ⟨⟨made, middle⟩, _, later⟩
    · rw [parameterWith_eq, Outcome.map_eq_error_iff] at stopped
      exact ⟨first, .head _, tree_of_parameter_eq_error stopped⟩
    · rcases Outcome.bind_eq_error_iff.mp later with stopped | ⟨_, _, built⟩
      · obtain ⟨parameter, member, refused⟩ := ih stopped
        exact ⟨parameter, .tail _ member, refused⟩
      · cases built

end Resolution

namespace Grammar

open Resolution

variable {options : Options} {requests : List Request} {wired : Wired} {failure : Failure}

/-- If all paths have their parts, the failure of a grammar is that of the tree of a query parameter
or a body. -/
theorem exists_of_build_eq_error
    (paths : ∀ request ∈ requests, ∃ parts, ∀ dictionary,
      (Resolution.path wired.wiring request dictionary).parts = .ok parts)
    (failed : build requests options wired = .error failure) :
    ∃ request ∈ requests, ∃ place ≠ .path, ∃ given ∈ request.selected options place, ∃ parts,
      tree ⟨wired.wiring, request.id, place, some parts⟩ (rootOf place given.name) given.payload =
        .error failure := by
  rcases Outcome.bind_eq_error_iff.mp failed with stopped | ⟨_, _, built⟩
  · obtain ⟨progress, request, asked, taking⟩ := Outcome.exists_of_foldlM_eq_error stopped
    obtain ⟨parts, made⟩ := paths request asked
    refine ⟨request, asked, ?_⟩
    rcases Outcome.bind_eq_error_iff.mp taking with onPath | ⟨_, same, afterPath⟩
    · rw [made] at onPath
      cases onPath
    · obtain rfl := Except.ok.inj ((made _).symm.trans same)
      rcases Outcome.bind_eq_error_iff.mp afterPath with inQuery | ⟨_, _, afterQuery⟩
      · obtain ⟨given, member, refused⟩ := exists_of_parametersWith_eq_error inQuery
        exact ⟨.query, by decide, given, member, parts, refused⟩
      · rcases Outcome.bind_eq_error_iff.mp afterQuery with inBody | ⟨_, _, built⟩
        · obtain ⟨given, member, refused⟩ := exists_of_parametersWith_eq_error inBody
          exact ⟨.body, by decide, given, member, parts, refused⟩
        · cases built
  · cases built

/-- Where a request selects a tree with an unfit array, no grammar is built. -/
theorem build_ne_ok_of_unfitAt {request : Request} (asked : request ∈ requests)
    {place : ParameterKind} (inTree : place ≠ .path) {given : Parameter}
    (member : given ∈ request.selected options place) {position : List Nat} {count : Nat}
    (unfit : ∀ parts, UnfitAt ⟨wired.wiring, request.id, place, some parts⟩
      (rootOf place given.name) given.payload position count)
    {built : Grammar × Dictionary × List Warning} : build requests options wired ≠ .ok built := by
  obtain ⟨grammar, dictionary, warnings⟩ := built
  intro done
  obtain ⟨sent, _, sends⟩ := Outcome.exists_result_of_forall₂ (build_eq_ok done).1 asked
  obtain ⟨made, resolved⟩ := sends.sendable.resolved place inTree given member
  obtain ⟨payload, taken, _⟩ := Outcome.bind_eq_ok_iff.mp resolved
  exact tree_ne_ok_of_unfitAt (unfit sent.path) taken

end Grammar

end ApiWiring
