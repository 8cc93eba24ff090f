import ApiWiring.Proofs.Outcome
import ApiWiring.Proofs.Representatives
import ApiWiring.Proofs.Wiring.Answers
import ApiWiring.Wiring.Passes

/-!
# What surveys say

A survey speaks of one request only: its consumers, its responses and its siblings are slots of that
request, and the link of a consumer applies to it. The slots of responses and of bodies are known by
their request and their path: apart from the type there is nothing else to them.
-/
namespace ApiWiring

namespace Slot

/-- Whether a slot is the property at some path of a body or a response. -/
def InBody (request : RequestId) (convention : Option NamingConvention) (slot : Slot) : Prop :=
  slot.request = request ∧ slot.convention = convention ∧
    ∃ path, path.resourceName? = some slot.name ∧ slot.site = .body path

/-- The properties of bodies that have one request and one path differ at most in their type. -/
theorem InBody.untyped_eq {left right : Slot} {leftRequest rightRequest : RequestId}
    {convention : Option NamingConvention} (first : InBody leftRequest convention left)
    (second : InBody rightRequest convention right) (owner : left.request = right.request)
    (same : left.accessPath = right.accessPath) : left.untyped = right.untyped := by
  obtain ⟨_, leftConvention, path, leftNamed, leftSite⟩ := first
  obtain ⟨_, rightConvention, other, rightNamed, rightSite⟩ := second
  obtain rfl : path = other := by
    rw [accessPath, accessPath, leftSite, rightSite] at same
    exact same
  have named : left.name = right.name := Option.some.inj (leftNamed.symm.trans rightNamed)
  simp only [untyped, owner, leftConvention, rightConvention, named, leftSite, rightSite]

/-- The slot of a node belongs to the request. -/
theorem request_of_ofNode? {request : RequestId} {kind : ParameterKind} {path : AccessPath}
    {type : PrimitiveType} {convention : Option NamingConvention} {slot : Slot}
    (made : ofNode? request kind path type convention = some slot) : slot.request = request := by
  unfold ofNode? at made
  split at made
  · cases made
    rfl
  · cases made
    rfl
  · cases made

/-- The slot of a body's node is the property at the node's path. -/
theorem inBody_of_ofNode? {request : RequestId} {path : AccessPath} {type : PrimitiveType}
    {convention : Option NamingConvention} {slot : Slot}
    (made : ofNode? request .body path type convention = some slot) :
    InBody request convention slot := by
  unfold ofNode? at made
  split at made
  · rename_i wrong _
    cases wrong
  · rename_i named
    cases made
    exact ⟨rfl, rfl, path, named, rfl⟩
  · cases made

end Slot

namespace Link

/-- The link that counts for a slot applies to it. -/
theorem applies_of_find? {atRequest everywhere : List Link} {slot : Slot} {link : Link}
    (found : (find? atRequest everywhere slot).1 = some link) : link.appliesTo slot = true := by
  have kept : link ∈ applying atRequest everywhere slot := List.mem_of_head? found
  exact (List.mem_filter.mp (Representatives.mem_of_mem_eraseDupsBy kept)).2

/-- A link that applies to a slot has another request produce. -/
theorem producer_ne_of_applies {link : Link} {slot : Slot} (applies : link.appliesTo slot = true) :
    link.producer ≠ slot.request := by
  simp only [appliesTo, Bool.and_eq_true, bne_iff_ne] at applies
  exact applies.1.1.1

end Link

namespace Survey

variable {options : Options} {everywhere : List Link} {request : Request} {survey : Survey}

/-- The slots of a tree belong to the request. -/
theorem request_of_mem_slotsOf {id : RequestId} {kind : ParameterKind} {tree : PropertyTree}
    {root : AccessPath} {convention : Option NamingConvention} {slot : Slot}
    (member : slot ∈ slotsOf id kind tree root convention) : slot.request = id := by
  obtain ⟨⟨path, node⟩, _, made⟩ := List.mem_filterMap.mp member
  exact Slot.request_of_ofNode? made

/-- The slots of a body are properties of a body. -/
theorem inBody_of_mem_slotsOf {id : RequestId} {tree : PropertyTree} {root : AccessPath}
    {convention : Option NamingConvention} {slot : Slot}
    (member : slot ∈ slotsOf id .body tree root convention) : slot.InBody id convention := by
  obtain ⟨⟨path, node⟩, _, made⟩ := List.mem_filterMap.mp member
  exact Slot.inBody_of_ofNode? made

/-- The slots of a response are properties of the response. -/
theorem inBody_of_mem_responseSlots {slot : Slot} (member : slot ∈ responseSlots options request) :
    slot.InBody request.id options.convention := by
  unfold responseSlots at member
  split at member
  · split at member
    · exact inBody_of_mem_slotsOf member
    · exact absurd member List.not_mem_nil
  · exact absurd member List.not_mem_nil

/-- The slots of the body are properties of the body. -/
theorem inBody_of_mem_bodySlots {slot : Slot} (member : slot ∈ bodySlots options request) :
    slot.InBody request.id options.convention := by
  unfold bodySlots at member
  split at member
  · obtain ⟨parameter, _, inside⟩ := List.mem_flatMap.mp member
    exact inBody_of_mem_slotsOf inside
  · exact absurd member List.not_mem_nil

/-- The query slots belong to the request. -/
theorem request_of_mem_querySlots {slot : Slot} (member : slot ∈ querySlots options request) :
    slot.request = request.id := by
  unfold querySlots at member
  split at member
  · obtain ⟨parameter, _, inside⟩ := List.mem_flatMap.mp member
    exact request_of_mem_slotsOf inside
  · exact absurd member List.not_mem_nil

/-- A path parameter that has a slot is a single value, and the slot is named after it. -/
theorem pathSlot_eq_ok {id : RequestId} {parameter : Parameter} {slot : Slot}
    (made : pathSlot options id parameter = .ok slot) :
    ∃ property, parameter.payload = .leaf property ∧
      slot = .ofPathParameter id parameter.name property.payload.type options.convention := by
  unfold pathSlot at made
  split at made
  · rename_i property shaped
    cases made
    exact ⟨property, shaped, rfl⟩
  · cases made

/-- The slots of a request that need a value, each with its kind of parameter. -/
def kindedSlots (options : Options) (request : Request) (pathSlots : List Slot) :
    List (Slot × ParameterKind) :=
  pathSlots.map (·, .path) ++ (querySlots options request).map (·, .query) ++
    (bodySlots options request).map (·, .body)

/-- The links written at a request. -/
def linksAt (request : Request) : List Link :=
  (Link.ofRecords request.links (some request.id) ("annotations of " ++ request.id.display)).1

/-- Members taken together with what is made of each of them. -/
theorem map_zip_map {α β γ : Type} (members : List α) (make : α → β) (change : α × β → γ) :
    (members.zip (members.map make)).map change =
      members.map fun member => change (member, make member) := by
  induction members with
  | nil => rfl
  | cons member rest ih =>
    rw [List.map_cons, List.zip_cons_cons, List.map_cons, ih]
    rfl

/-- What the survey of a request is made of. -/
theorem ofRequest_eq_ok (done : ofRequest options everywhere request = .ok survey) :
    survey.request = request.id ∧ survey.responses = responseSlots options request ∧
      survey.siblings = (bodySlots options request).filter mayBeSibling ∧
        ∃ pathSlots, request.pathParameters.mapM (pathSlot options request.id) = .ok pathSlots ∧
          survey.consumers = (kindedSlots options request pathSlots).map fun (slot, kind) =>
            ⟨slot, kind, (Link.find? (linksAt request) everywhere slot).1⟩ := by
  obtain ⟨pathSlots, found, built⟩ := Outcome.bind_eq_ok_iff.mp done
  cases built
  refine ⟨rfl, rfl, rfl, pathSlots, found, ?_⟩
  exact map_zip_map (kindedSlots options request pathSlots)
    (fun entry => Link.find? (linksAt request) everywhere entry.1)
    fun entry => Consumer.mk entry.1.1 entry.1.2 entry.2.1

/-- The slots that need a value belong to the request. -/
theorem request_of_mem_kindedSlots {pathSlots : List Slot} {slot : Slot} {kind : ParameterKind}
    (found : request.pathParameters.mapM (pathSlot options request.id) = .ok pathSlots)
    (member : (slot, kind) ∈ kindedSlots options request pathSlots) :
    slot.request = request.id := by
  simp only [kindedSlots, List.mem_append, List.mem_map, Prod.mk.injEq] at member
  obtain (⟨_, inPath, rfl, _⟩ | ⟨_, inQuery, rfl, _⟩) | ⟨_, inBody, rfl, _⟩ := member
  · obtain ⟨parameter, _, made⟩ :=
      Outcome.exists_member_of_forall₂ (Outcome.mapM_eq_ok_iff.mp found) inPath
    obtain ⟨_, _, rfl⟩ := pathSlot_eq_ok made
    rfl
  · exact request_of_mem_querySlots inQuery
  · exact (inBody_of_mem_bodySlots inBody).1

/-- A consumer is a slot of the request, and its link has another request produce. -/
theorem consumer_of_ofRequest (done : ofRequest options everywhere request = .ok survey)
    {consumer : Consumer} (member : consumer ∈ survey.consumers) :
    consumer.slot.request = request.id ∧ consumer.LinkedElsewhere := by
  obtain ⟨_, _, _, pathSlots, found, listed⟩ := ofRequest_eq_ok done
  rw [listed] at member
  obtain ⟨⟨slot, kind⟩, inside, rfl⟩ := List.mem_map.mp member
  refine ⟨request_of_mem_kindedSlots found inside, fun link asked => ?_⟩
  exact Link.producer_ne_of_applies (Link.applies_of_find? asked)

/-- The consumers in bodies are properties of the request's body. -/
theorem inBody_of_mem_consumers (done : ofRequest options everywhere request = .ok survey)
    {consumer : Consumer} (member : consumer ∈ survey.consumers) (kind : consumer.kind = .body) :
    consumer.slot.InBody request.id options.convention := by
  obtain ⟨_, _, _, pathSlots, _, listed⟩ := ofRequest_eq_ok done
  rw [listed] at member
  obtain ⟨⟨slot, other⟩, inside, rfl⟩ := List.mem_map.mp member
  obtain rfl : other = .body := kind
  simp only [kindedSlots, List.mem_append, List.mem_map, Prod.mk.injEq, reduceCtorEq, and_false,
    exists_false, false_or, and_true, exists_eq_right] at inside
  exact inBody_of_mem_bodySlots inside

/-- The responses surveyed are properties of the request's response. -/
theorem inBody_of_mem_responses (done : ofRequest options everywhere request = .ok survey)
    {slot : Slot} (member : slot ∈ survey.responses) :
    slot.InBody request.id options.convention := by
  obtain ⟨_, listed, _⟩ := ofRequest_eq_ok done
  rw [listed] at member
  exact inBody_of_mem_responseSlots member

/-- The siblings surveyed are properties of the request's body called `name`, with a container. -/
theorem inBody_of_mem_siblings (done : ofRequest options everywhere request = .ok survey)
    {slot : Slot} (member : slot ∈ survey.siblings) :
    slot.InBody request.id options.convention ∧ slot.name = "name" := by
  obtain ⟨_, _, listed, _⟩ := ofRequest_eq_ok done
  rw [listed] at member
  obtain ⟨inside, called⟩ := List.mem_filter.mp member
  simp only [mayBeSibling, Bool.and_eq_true, beq_iff_eq] at called
  exact ⟨inBody_of_mem_bodySlots inside, called.1⟩

end Survey

end ApiWiring
