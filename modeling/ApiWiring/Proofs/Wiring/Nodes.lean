import ApiWiring.Proofs.Wiring.Surveys

/-!
# The nodes that surveys list

What a survey lists is stated on the trees themselves. A node is listed when its path ends in a
name, that is in a component which is neither empty nor the array marker. The responses of a request
are the named nodes of its response (`Offers`), the properties that may supply others are named
nodes of its body (`Holds`), and the keys of its consumers are its path parameters and the named
nodes of the query parameters and bodies that are to be resolved (`Needs`).
-/
namespace ApiWiring

/-- Whether a path ends in a name. -/
def AccessPath.EndsIn (path : AccessPath) (name : String) : Prop :=
  path.parts.getLast? = some name ∧ name ≠ "" ∧ name ≠ arrayItem

/-- The name of the node at a path is the name in which the path ends. -/
theorem AccessPath.resourceName?_eq_some_iff {path : AccessPath} {name : String} :
    path.resourceName? = some name ↔ path.EndsIn name := by
  simp only [resourceName?, Option.filter_eq_some_iff, EndsIn, isName, Bool.and_eq_true,
    bne_iff_ne, and_comm (a := name ≠ "")]

namespace Slot

variable {request : RequestId} {kind : ParameterKind} {path : AccessPath} {type : PrimitiveType}
  {convention : Option NamingConvention} {slot : Slot}

/-- Whether a slot is a named node of a tree of a request's body or response. -/
def IsNodeOf (slot : Slot) (request : RequestId) (convention : Option NamingConvention)
    (tree : PropertyTree) : Prop :=
  ∃ path node, (path, node) ∈ tree.visits .root ∧ path.EndsIn slot.name ∧
    slot = ⟨request, slot.name, .body path, convention, node.type⟩

/-- The slot of a node has the name and the path of the node. -/
theorem named_of_ofNode? (made : ofNode? request kind path type convention = some slot) :
    path.EndsIn slot.name ∧ slot.accessPath = path := by
  unfold ofNode? at made
  split at made
  · rename_i named
    cases made
    exact ⟨AccessPath.resourceName?_eq_some_iff.mp named, rfl⟩
  · rename_i named
    cases made
    exact ⟨AccessPath.resourceName?_eq_some_iff.mp named, rfl⟩
  · cases made

/-- A named node of a query parameter or a body has a slot. -/
theorem exists_ofNode? (inTree : kind ≠ .path) {name : String} (named : path.EndsIn name)
    (request : RequestId) (type : PrimitiveType) (convention : Option NamingConvention) :
    ∃ slot, ofNode? request kind path type convention = some slot ∧ slot.name = name := by
  rw [← AccessPath.resourceName?_eq_some_iff] at named
  cases kind with
  | path => exact absurd rfl inTree
  | query => simp [ofNode?, named]
  | body => simp [ofNode?, named]

/-- The slot of a node of a body is the property of that name at the path of the node. -/
theorem ofNode?_body_eq_some_iff :
    ofNode? request .body path type convention = some slot ↔
      path.EndsIn slot.name ∧ slot = ⟨request, slot.name, .body path, convention, type⟩ := by
  constructor
  · intro made
    refine ⟨(named_of_ofNode? made).1, ?_⟩
    unfold ofNode? at made
    split at made
    · rename_i wrong _
      cases wrong
    · cases made
      rfl
    · cases made
  · rintro ⟨named, built⟩
    rw [← AccessPath.resourceName?_eq_some_iff] at named
    simp only [ofNode?, named]
    exact congrArg some built.symm

end Slot

namespace Request

/-- Whether a request offers a slot: its responses offer values, and the slot is a named node of its
response. -/
def Offers (request : Request) (convention : Option NamingConvention) (slot : Slot) : Prop :=
  (request.id.method = .post ∨ request.id.method = .put ∨ request.id.method = .patch ∨
      request.id.method = .get) ∧
    ∃ response, request.response = some response ∧ slot.IsNodeOf request.id convention response

/-- Whether a slot is a named node of a body that a request sends. -/
def Sends (request : Request) (options : Options) (slot : Slot) : Prop :=
  ∃ parameter ∈ request.bodyParameters.select options.allDeclared,
    slot.IsNodeOf request.id options.convention parameter.payload

/-- The keys of the values that a request needs: each path parameter, and each named node of its
query parameters and bodies if these are to be resolved. -/
inductive Needs (options : Options) (request : Request) : ConsumerKey → Prop where
  /-- A path parameter. -/
  | path (parameter : Parameter) (declared : parameter ∈ request.pathParameters) :
    Needs options request ⟨request.id, .path, parameter.name, ⟨[parameter.name]⟩⟩
  /-- A named node of a query parameter, whose path begins with the name of the parameter. -/
  | query (enabled : options.resolveQuery = true) (parameter : Parameter)
    (selected : parameter ∈ request.queryParameters.select options.allDeclared)
    (path : AccessPath) (node : PropertyNode)
    (visited : (path, node) ∈ parameter.payload.visits ⟨[parameter.name]⟩) (name : String)
    (named : path.EndsIn name) : Needs options request ⟨request.id, .query, name, path⟩
  /-- A named node of a body, whose path begins below the root. -/
  | body (enabled : options.resolveBody = true) (parameter : Parameter)
    (selected : parameter ∈ request.bodyParameters.select options.allDeclared)
    (path : AccessPath) (node : PropertyNode)
    (visited : (path, node) ∈ parameter.payload.visits .root) (name : String)
    (named : path.EndsIn name) : Needs options request ⟨request.id, .body, name, path⟩

/-- What a request needs in a tree is at a path that ends in its name. -/
theorem Needs.endsIn {options : Options} {request : Request} {key : ConsumerKey}
    (needed : request.Needs options key) (inTree : key.kind ≠ .path) :
    key.path.EndsIn key.name := by
  cases needed with
  | path => exact absurd rfl inTree
  | query enabled parameter selected path node visited name named => exact named
  | body enabled parameter selected path node visited name named => exact named

end Request

namespace Survey

variable {options : Options} {everywhere : List Link} {request : Request} {survey : Survey}
  {slot : Slot} {key : ConsumerKey}

/-- The slots of a body or response are its named nodes. -/
theorem mem_slotsOf_body_iff {id : RequestId} {tree : PropertyTree}
    {convention : Option NamingConvention} :
    slot ∈ slotsOf id .body tree .root convention ↔ slot.IsNodeOf id convention tree := by
  simp only [slotsOf, List.mem_filterMap, Prod.exists, Slot.ofNode?_body_eq_some_iff]
  rfl

/-- A single value has no named node. -/
theorem not_isNodeOf_leaf {id : RequestId} {convention : Option NamingConvention}
    {property : LeafProperty} : ¬slot.IsNodeOf id convention (.leaf property) := by
  rintro ⟨path, node, visited, ⟨last, _⟩, _⟩
  rw [PropertyTree.visits, List.mem_singleton] at visited
  cases visited
  cases last

/-- The responses listed are those that the request offers. -/
theorem mem_responseSlots_iff :
    slot ∈ responseSlots options request ↔ request.Offers options.convention slot := by
  have answering : request.id.method.answers = true ↔ request.id.method = .post ∨
      request.id.method = .put ∨ request.id.method = .patch ∨ request.id.method = .get := by
    simp [Method.answers, or_assoc]
  rw [Request.Offers, ← answering]
  cases given : request.response with
  | none => simp [responseSlots, given]
  | some response =>
    cases response with
    | leaf property => simp [responseSlots, given, not_isNodeOf_leaf]
    | inner property children =>
      by_cases answers : request.id.method.answers = true
      · simp [responseSlots, given, answers, mem_slotsOf_body_iff]
      · simp [responseSlots, given, answers]

/-- A property listed as one that may supply others is sent in a body. -/
theorem sends_of_mem_bodySlots (member : slot ∈ bodySlots options request) :
    request.Sends options slot := by
  unfold bodySlots at member
  split at member
  · obtain ⟨parameter, selected, inside⟩ := List.mem_flatMap.mp member
    exact ⟨parameter, selected, mem_slotsOf_body_iff.mp inside⟩
  · exact absurd member List.not_mem_nil

/-! ## The keys of consumers -/

/-- The keys of the slots of a tree are those of its named nodes. -/
theorem exists_mem_slotsOf_iff {id : RequestId} {kind : ParameterKind} (inTree : kind ≠ .path)
    {tree : PropertyTree} {root : AccessPath} {convention : Option NamingConvention} :
    (∃ slot ∈ slotsOf id kind tree root convention, (Consumer.plain slot kind).key = key) ↔
      ∃ path node name, (path, node) ∈ tree.visits root ∧ path.EndsIn name ∧
        key = ⟨id, kind, name, path⟩ := by
  constructor
  · rintro ⟨slot, listed, rfl⟩
    obtain ⟨⟨path, node⟩, visited, made⟩ := List.mem_filterMap.mp listed
    obtain ⟨named, located⟩ := Slot.named_of_ofNode? made
    refine ⟨path, node, slot.name, visited, named, ?_⟩
    rw [Consumer.key, Consumer.plain, Slot.request_of_ofNode? made, located]
  · rintro ⟨path, node, name, visited, named, rfl⟩
    obtain ⟨slot, made, rfl⟩ := Slot.exists_ofNode? inTree named id node.type convention
    refine ⟨slot, List.mem_filterMap.mpr ⟨(path, node), visited, made⟩, ?_⟩
    rw [Consumer.key, Consumer.plain, Slot.request_of_ofNode? made, (Slot.named_of_ofNode? made).2]

/-- The keys of the path slots are those of the path parameters. -/
theorem exists_mem_pathSlots_iff {id : RequestId} {parameters : List Parameter}
    {pathSlots : List Slot} (found : parameters.mapM (pathSlot options id) = .ok pathSlots) :
    (∃ slot ∈ pathSlots, (Consumer.plain slot .path).key = key) ↔
      ∃ parameter ∈ parameters, key = ⟨id, .path, parameter.name, ⟨[parameter.name]⟩⟩ := by
  have each := Outcome.mapM_eq_ok_iff.mp found
  have keyed : ∀ {parameter : Parameter} {slot : Slot},
      pathSlot options id parameter = .ok slot →
        (Consumer.plain slot .path).key = ⟨id, .path, parameter.name, ⟨[parameter.name]⟩⟩ := by
    intro parameter slot made
    obtain ⟨_, _, rfl⟩ := pathSlot_eq_ok made
    rfl
  constructor
  · rintro ⟨slot, listed, rfl⟩
    obtain ⟨parameter, declared, made⟩ := Outcome.exists_member_of_forall₂ each listed
    exact ⟨parameter, declared, keyed made⟩
  · rintro ⟨parameter, declared, rfl⟩
    obtain ⟨slot, listed, made⟩ := Outcome.exists_result_of_forall₂ each declared
    exact ⟨slot, listed, keyed made⟩

/-- The keys of the slots of parameters are those of the named nodes of their trees. -/
theorem exists_mem_flatMap_slotsOf_iff {id : RequestId} {kind : ParameterKind}
    (inTree : kind ≠ .path) {parameters : List Parameter} {root : Parameter → AccessPath}
    {convention : Option NamingConvention} :
    (∃ slot ∈ parameters.flatMap fun parameter =>
        slotsOf id kind parameter.payload (root parameter) convention,
      (Consumer.plain slot kind).key = key) ↔
      ∃ parameter ∈ parameters, ∃ path node name,
        (path, node) ∈ parameter.payload.visits (root parameter) ∧ path.EndsIn name ∧
          key = ⟨id, kind, name, path⟩ := by
  constructor
  · rintro ⟨slot, listed, keyed⟩
    obtain ⟨parameter, selected, inside⟩ := List.mem_flatMap.mp listed
    exact ⟨parameter, selected, (exists_mem_slotsOf_iff inTree).mp ⟨slot, inside, keyed⟩⟩
  · rintro ⟨parameter, selected, node⟩
    obtain ⟨slot, inside, keyed⟩ := (exists_mem_slotsOf_iff inTree).mpr node
    exact ⟨slot, List.mem_flatMap.mpr ⟨parameter, selected, inside⟩, keyed⟩

/-- The keys of the query slots are those of the named nodes of the query parameters. -/
theorem exists_mem_querySlots_iff :
    (∃ slot ∈ querySlots options request, (Consumer.plain slot .query).key = key) ↔
      options.resolveQuery = true ∧
        ∃ parameter ∈ request.queryParameters.select options.allDeclared, ∃ path node name,
          (path, node) ∈ parameter.payload.visits ⟨[parameter.name]⟩ ∧ path.EndsIn name ∧
            key = ⟨request.id, .query, name, path⟩ := by
  have inTree : ParameterKind.query ≠ .path := by decide
  unfold querySlots
  split
  · rename_i enabled
    rw [exists_mem_flatMap_slotsOf_iff inTree, enabled, eq_self, true_and]
  · rename_i disabled
    simp [disabled]

/-- The keys of the body slots are those of the named nodes of the bodies. -/
theorem exists_mem_bodySlots_iff :
    (∃ slot ∈ bodySlots options request, (Consumer.plain slot .body).key = key) ↔
      options.resolveBody = true ∧
        ∃ parameter ∈ request.bodyParameters.select options.allDeclared, ∃ path node name,
          (path, node) ∈ parameter.payload.visits .root ∧ path.EndsIn name ∧
            key = ⟨request.id, .body, name, path⟩ := by
  have inTree : ParameterKind.body ≠ .path := by decide
  unfold bodySlots
  split
  · rename_i enabled
    rw [exists_mem_flatMap_slotsOf_iff inTree, enabled, eq_self, true_and]
  · rename_i disabled
    simp [disabled]

/-- A slot that needs a value is one of a path parameter, a query parameter or a body. -/
theorem exists_mem_kindedSlots {pathSlots : List Slot} (test : Slot → ParameterKind → Prop) :
    (∃ slot kind, (slot, kind) ∈ kindedSlots options request pathSlots ∧ test slot kind) ↔
      (∃ slot ∈ pathSlots, test slot .path) ∨ (∃ slot ∈ querySlots options request,
        test slot .query) ∨ ∃ slot ∈ bodySlots options request, test slot .body := by
  simp only [kindedSlots, List.mem_append, List.mem_map, Prod.mk.injEq]
  constructor
  · rintro ⟨_, _, (⟨slot, member, rfl, rfl⟩ | ⟨slot, member, rfl, rfl⟩) | ⟨slot, member, rfl, rfl⟩,
      holds⟩
    · exact .inl ⟨slot, member, holds⟩
    · exact .inr (.inl ⟨slot, member, holds⟩)
    · exact .inr (.inr ⟨slot, member, holds⟩)
  · rintro (⟨slot, member, holds⟩ | ⟨slot, member, holds⟩ | ⟨slot, member, holds⟩)
    · exact ⟨slot, .path, .inl (.inl ⟨slot, member, rfl, rfl⟩), holds⟩
    · exact ⟨slot, .query, .inl (.inr ⟨slot, member, rfl, rfl⟩), holds⟩
    · exact ⟨slot, .body, .inr ⟨slot, member, rfl, rfl⟩, holds⟩

/-- The keys of the slots of all three kinds are those of the values that the request needs. -/
theorem exists_mem_kindedSlots_iff {pathSlots : List Slot}
    (found : request.pathParameters.mapM (pathSlot options request.id) = .ok pathSlots) :
    (∃ slot kind, (slot, kind) ∈ kindedSlots options request pathSlots ∧
      (Consumer.plain slot kind).key = key) ↔ request.Needs options key := by
  rw [exists_mem_kindedSlots fun slot kind => (Consumer.plain slot kind).key = key,
    exists_mem_pathSlots_iff found, exists_mem_querySlots_iff, exists_mem_bodySlots_iff]
  constructor
  · rintro (⟨parameter, declared, rfl⟩ |
      ⟨enabled, parameter, selected, path, node, name, visited, named, rfl⟩ |
      ⟨enabled, parameter, selected, path, node, name, visited, named, rfl⟩)
    · exact .path parameter declared
    · exact .query enabled parameter selected path node visited name named
    · exact .body enabled parameter selected path node visited name named
  · intro needed
    cases needed with
    | path parameter declared => exact .inl ⟨parameter, declared, rfl⟩
    | query enabled parameter selected path node visited name named =>
      exact .inr (.inl ⟨enabled, parameter, selected, path, node, name, visited, named, rfl⟩)
    | body enabled parameter selected path node visited name named =>
      exact .inr (.inr ⟨enabled, parameter, selected, path, node, name, visited, named, rfl⟩)

/-- The keys of the consumers surveyed are those of the values that the request needs. -/
theorem exists_consumer_iff (done : ofRequest options everywhere request = .ok survey) :
    (∃ consumer ∈ survey.consumers, consumer.key = key) ↔ request.Needs options key := by
  obtain ⟨_, _, _, pathSlots, found, listed⟩ := ofRequest_eq_ok done
  rw [← exists_mem_kindedSlots_iff found, listed]
  simp only [List.mem_map, Prod.exists]
  constructor
  · rintro ⟨consumer, ⟨slot, kind, inside, rfl⟩, keyed⟩
    exact ⟨slot, kind, inside, keyed⟩
  · rintro ⟨slot, kind, inside, keyed⟩
    exact ⟨_, ⟨slot, kind, inside, rfl⟩, keyed⟩

/-- A property that may supply others is itself a consumer. -/
theorem exists_consumer_of_mem_siblings (done : ofRequest options everywhere request = .ok survey)
    (member : slot ∈ survey.siblings) :
    ∃ consumer ∈ survey.consumers, consumer.key = (Consumer.plain slot .body).key := by
  obtain ⟨_, _, listed, pathSlots, found, _⟩ := ofRequest_eq_ok done
  rw [listed] at member
  rw [exists_consumer_iff done, ← exists_mem_kindedSlots_iff found]
  refine ⟨slot, .body, ?_, rfl⟩
  exact List.mem_append_right _ (List.mem_map.mpr ⟨slot, (List.mem_filter.mp member).1, rfl⟩)

end Survey

end ApiWiring
