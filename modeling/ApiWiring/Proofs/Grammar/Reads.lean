import ApiWiring.Proofs.Grammar.Course
import ApiWiring.Proofs.Grammar.Substitution

/-!
# Where kept values are read

A resolved tree sends a value kept from an earlier response only where the tree given sent it, where
the wiring has a response producer, or as part of the request's path. So a request whose parameters
send no kept values reads exactly such values as the wiring supplies to it.
-/
namespace ApiWiring

/-- All values kept from earlier responses that a request sends, in the order of its path, query and
body. -/
def GrammarRequest.dynamicObjects (sent : GrammarRequest) : List DynamicObject :=
  Payload.listDynamicObjects sent.path ++
    (sent.queryParameters ++ sent.bodyParameters).flatMap (·.payload.dynamicObjects)

/-- All parameters of a request, declared or of an example. -/
def Request.parameters (request : Request) : List Parameter :=
  request.pathParameters ++
    (request.queryParameters.declared ++ request.queryParameters.example?.getD []) ++
      (request.bodyParameters.declared ++ request.bodyParameters.example?.getD [])

/-- The parameters to send are declared or of the example. -/
theorem ParameterSet.mem_of_mem_select {set : ParameterSet} {allDeclared : Bool}
    {parameter : Parameter} (member : parameter ∈ set.select allDeclared) :
    parameter ∈ set.declared ++ set.example?.getD [] := by
  unfold select at member
  rw [List.mem_append]
  split at member
  · rename_i parameters given
    split at member
    · exact .inl member
    · rw [given, Option.getD_some]
      exact .inr member
  · exact .inl member

namespace Request

variable {request : Request} {parameter : Parameter}

/-- A path parameter is a parameter of the request. -/
theorem mem_parameters_of_path (member : parameter ∈ request.pathParameters) :
    parameter ∈ request.parameters :=
  List.mem_append_left _ (List.mem_append_left _ member)

/-- A query parameter to send is a parameter of the request. -/
theorem mem_parameters_of_query {allDeclared : Bool}
    (member : parameter ∈ request.queryParameters.select allDeclared) :
    parameter ∈ request.parameters :=
  List.mem_append_left _ (List.mem_append_right _ (ParameterSet.mem_of_mem_select member))

/-- A body parameter to send is a parameter of the request. -/
theorem mem_parameters_of_body {allDeclared : Bool}
    (member : parameter ∈ request.bodyParameters.select allDeclared) :
    parameter ∈ request.parameters :=
  List.mem_append_right _ (ParameterSet.mem_of_mem_select member)

end Request

namespace PropertyTree

/-- The nodes of a tree do not depend on where its root is. -/
theorem snd_visits (tree : PropertyTree) (path other : AccessPath) :
    (tree.visits path).map (·.2) = (tree.visits other).map (·.2) := by
  induction tree using PropertyTree.induction generalizing path other with
  | leaf property => rfl
  | inner property children ih =>
    rw [visits, visits, List.map_cons, List.map_cons, childVisits_eq, childVisits_eq,
      List.map_flatMap, List.map_flatMap]
    congr 1
    rw [List.flatMap_def, List.flatMap_def]
    congr 1
    apply List.map_congr_left
    intro child member
    exact ih child member _ _

/-- The kept values of a tree are those of its nodes, wherever its root is. -/
theorem dynamicObjects_eq (tree : PropertyTree) (path : AccessPath) :
    tree.dynamicObjects = ((tree.visits path).map (·.2)).flatMap fun node =>
      node.payload?.toList.flatMap Payload.dynamicObjects := by
  rw [snd_visits tree path .root, List.flatMap_map]
  rfl

/-- A leaf sends the kept values of its payload. -/
theorem dynamicObjects_leaf (property : LeafProperty) :
    (leaf property).dynamicObjects = property.payload.dynamicObjects := by
  simp [dynamicObjects, visits, PropertyNode.payload?]

/-- An inner node sends the kept values of what it sends itself, then those of its children. -/
theorem dynamicObjects_inner (property : InnerProperty) (children : List PropertyTree) :
    (inner property children).dynamicObjects =
      property.override.toList.flatMap Payload.dynamicObjects ++
        children.flatMap (·.dynamicObjects) := by
  rw [dynamicObjects_eq _ .root, visits, List.map_cons, List.flatMap_cons, childVisits_eq,
    List.map_flatMap, List.flatMap_assoc]
  congr 1
  rw [List.flatMap_def, List.flatMap_def]
  congr 1
  apply List.map_congr_left
  intro child _
  exact (dynamicObjects_eq child _).symm

end PropertyTree

namespace Resolution

variable {source : Source} {object : DynamicObject}

/-- Whether a kept value is one that a source supplies: the value of a response producer, or a part
of the request's path. -/
def Supplies (source : Source) (object : DynamicObject) : Prop :=
  (∃ path slot, source.producer? path = some (.response slot) ∧
    object = ⟨slot.variableName, slot.type⟩) ∨
      ∃ parts, source.requestPath = some parts ∧ object ∈ Payload.listDynamicObjects parts

/-- A kept value in what a producer sends is supplied. -/
theorem supplies_of_payload {path : AccessPath} {producer : Producer} {payload : Payload}
    (present : source.producer? path = some producer)
    (sent : source.payload path producer = .ok payload)
    (read : object ∈ payload.dynamicObjects) : Supplies source object := by
  cases producer with
  | response slot =>
    cases sent
    exact .inl ⟨path, slot, present, List.mem_singleton.mp read⟩
  | dictionary entry =>
    cases sent
    exact absurd read List.not_mem_nil
  | sibling slot =>
    unfold Source.payload producerPayload at sent
    cases given : source.requestPath with
    | none =>
      rw [given] at sent
      cases sent
    | some parts =>
      rw [given] at sent
      cases sent
      refine .inr ⟨parts, given, ?_⟩
      simpa [siblingPayload, Payload.dynamicObjects, Payload.listDynamicObjects_eq,
        Payload.text] using read

/-- A kept value in what takes the place of a subtree was sent by the subtree or is in the payload.
-/
theorem mem_dynamicObjects_replacement {payload : Payload} {below : PropertyTree}
    (read : object ∈ (replacement payload below).dynamicObjects) :
    object ∈ below.dynamicObjects ∨ object ∈ payload.dynamicObjects := by
  cases below with
  | leaf property =>
    rw [replacement, PropertyTree.dynamicObjects_leaf] at read
    exact .inr read
  | inner property children =>
    cases shape : property.shape with
    | array =>
      simp only [replacement, shape] at read
      rw [PropertyTree.dynamicObjects_inner, List.mem_append] at read
      rw [PropertyTree.dynamicObjects_inner, List.mem_append]
      rcases read with own | item
      · exact .inl (.inl own)
      · rw [List.flatMap_singleton, PropertyTree.dynamicObjects_leaf] at item
        exact .inr item
    | object =>
      simp only [replacement, shape, PropertyTree.dynamicObjects_leaf] at read
      exact .inr read
    | property =>
      simp only [replacement, shape, PropertyTree.dynamicObjects_leaf] at read
      exact .inr read

/-- At a supplied root a kept value was sent by the tree given or is supplied. -/
theorem mem_dynamicObjects_of_supplied {root : AccessPath} {before after : PropertyTree}
    {producer : Producer} (present : source.producer? root = some producer)
    (resolved : tree source root before = .ok after) (read : object ∈ after.dynamicObjects) :
    object ∈ before.dynamicObjects ∨ Supplies source object := by
  obtain ⟨_, payload, sent, rfl⟩ := (tree_of_supplied present after).mp resolved
  rcases mem_dynamicObjects_replacement read with old | new
  · exact .inl old
  · exact .inr (supplies_of_payload present sent new)

/-- A kept value in a resolved tree was sent by the tree given or is supplied. -/
theorem mem_dynamicObjects_of_tree {root : AccessPath} {before after : PropertyTree}
    (resolved : tree source root before = .ok after) (read : object ∈ after.dynamicObjects) :
    object ∈ before.dynamicObjects ∨ Supplies source object := by
  induction before using PropertyTree.induction generalizing root after with
  | leaf property =>
    cases present : source.producer? root with
    | some producer => exact mem_dynamicObjects_of_supplied present resolved read
    | none =>
      simp only [tree, present, Except.ok.injEq] at resolved
      rw [resolved]
      exact .inl read
  | inner property children ih =>
    cases present : source.producer? root with
    | some producer => exact mem_dynamicObjects_of_supplied present resolved read
    | none =>
      simp only [tree, present] at resolved
      obtain ⟨results, each, built⟩ := Outcome.bind_eq_ok_iff.mp resolved
      cases built
      rw [trees_eq_mapM, Outcome.mapM_eq_ok_iff] at each
      rw [PropertyTree.dynamicObjects_inner, List.mem_append] at read
      rw [PropertyTree.dynamicObjects_inner, List.mem_append]
      rcases read with own | below
      · exact .inl (.inl own)
      · obtain ⟨result, listed, inside⟩ := List.mem_flatMap.mp below
        obtain ⟨child, member, done⟩ := Outcome.exists_member_of_forall₂ each listed
        rcases ih child member done inside with old | supplied
        · exact .inl (.inr (List.mem_flatMap.mpr ⟨child, member, old⟩))
        · exact .inr supplied

/-- A kept value in a resolved parameter was sent by the parameter given or is supplied. -/
theorem mem_dynamicObjects_of_parameter {given made : Parameter}
    (resolved : parameter source given = .ok made)
    (read : object ∈ made.payload.dynamicObjects) :
    object ∈ given.payload.dynamicObjects ∨ Supplies source object := by
  obtain ⟨after, done, built⟩ := Outcome.bind_eq_ok_iff.mp resolved
  cases built
  exact mem_dynamicObjects_of_tree done read

/-- Whether a kept value is one that a parameter of the request sends or that the wiring supplies to
the request. -/
def IsSourced (wiring : Wiring) (request : Request) (object : DynamicObject) : Prop :=
  (∃ given ∈ request.parameters, object ∈ given.payload.dynamicObjects) ∨
    ∃ kind path slot, wiring.producerFor? request.id kind path = some (.response slot) ∧
      object = ⟨slot.variableName, slot.type⟩

variable {wiring : Wiring} {request : Request}

/-- A kept value in a part of a path is sourced. -/
theorem sourced_of_isPart {part : Payload} (isPart : IsPart wiring request part)
    (read : object ∈ part.dynamicObjects) : IsSourced wiring request object := by
  cases isPart with
  | written text => exact absurd read List.not_mem_nil
  | undeclared => exact absurd read List.not_mem_nil
  | declared given made listed resolved property single =>
    rw [← PropertyTree.dynamicObjects_leaf, ← single] at read
    rcases mem_dynamicObjects_of_parameter resolved read with old | ⟨path, new⟩ | ⟨parts, none, _⟩
    · exact .inl ⟨given, Request.mem_parameters_of_path listed, old⟩
    · exact .inr ⟨.path, path, new⟩
    · cases none

/-- A kept value in the path of a request is sourced. -/
theorem sourced_of_path {before : Dictionary} {parts : List Payload}
    (made : (path wiring request before).parts = .ok parts)
    (read : object ∈ Payload.listDynamicObjects parts) : IsSourced wiring request object := by
  rw [Payload.listDynamicObjects_eq] at read
  obtain ⟨part, listed, inside⟩ := List.mem_flatMap.mp read
  exact sourced_of_isPart ((segmentsWith_eq_ok made).1 part listed) inside

/-- A kept value in a parameter resolved where the path is known is sourced. -/
theorem sourced_of_parameter {kind : ParameterKind} {parts : List Payload} {given made : Parameter}
    (inPath : object ∈ Payload.listDynamicObjects parts → IsSourced wiring request object)
    (member : given ∈ request.parameters)
    (resolved : parameter ⟨wiring, request.id, kind, some parts⟩ given = .ok made)
    (read : object ∈ made.payload.dynamicObjects) : IsSourced wiring request object := by
  rcases mem_dynamicObjects_of_parameter resolved read with old | ⟨path, new⟩ | ⟨_, known, inside⟩
  · exact .inl ⟨given, member, old⟩
  · exact .inr ⟨kind, path, new⟩
  · cases known
    exact inPath inside

/-- Every kept value that a request of a grammar sends is sourced. -/
theorem sourced_of_sends {options : Options} {sent : GrammarRequest}
    (sends : Grammar.Sends wiring options request sent) (read : object ∈ sent.dynamicObjects) :
    IsSourced wiring request object := by
  obtain ⟨before, made⟩ := sends.path
  have inPath : object ∈ Payload.listDynamicObjects sent.path → IsSourced wiring request object :=
    sourced_of_path made
  have query := sends.query
  have body := sends.body
  rw [sends.id] at query body
  rcases List.mem_append.mp read with ofPath | inTrees
  · exact inPath ofPath
  · obtain ⟨made, listed, inside⟩ := List.mem_flatMap.mp inTrees
    rcases List.mem_append.mp listed with inQuery | inBody
    · obtain ⟨given, selected, resolved⟩ := Outcome.exists_member_of_forall₂ query inQuery
      exact sourced_of_parameter inPath (Request.mem_parameters_of_query selected) resolved inside
    · obtain ⟨given, selected, resolved⟩ := Outcome.exists_member_of_forall₂ body inBody
      exact sourced_of_parameter inPath (Request.mem_parameters_of_body selected) resolved inside

end Resolution

end ApiWiring
