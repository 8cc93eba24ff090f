import ApiWiring.Proofs.Api.Endpoint
import ApiWiring.Wiring.Inference

/-!
# How inference comes to a slot

A slot of a response reaches a consumer because a link asks for it, or by one of the rules of
inference (`Route`). Every rule lets only those slots through whose request may supply that of the
consumer (`MaySupply`), and the rules for path parameters only lead to requests that precede it: the
endpoint before the parameter has fewer segments, with or without parameter names, and the endpoint
through the parameter either has fewer or is the consumer's own, since otherwise the consumer's
endpoint would lead it.
-/
namespace ApiWiring

open Text

/-- Whether the responses of a request may supply the values of another one. -/
structure RequestId.MaySupply (allowGet : Bool) (supplier user : RequestId) : Prop where
  /-- It creates what it answers with, unless requests that read supply too. -/
  creates : allowGet = true ∨ supplier.method = .post ∨ supplier.method = .put
  /-- At one endpoint it is the earlier step. -/
  earlier : supplier.endpoint = user.endpoint →
    supplier.method.lifecycleRank < user.method.lifecycleRank
  /-- At another endpoint it is not below the user's. -/
  outside : supplier.endpoint ≠ user.endpoint →
    ¬segments user.endpoint <+: segments supplier.endpoint

/-- A producer is valid when its request may supply that of the consumer. -/
theorem isValidProducer_iff {allowGet : Bool} {producer : Slot} {consumer : Consumer} :
    isValidProducer allowGet producer consumer = true ↔
      producer.request.MaySupply allowGet consumer.slot.request := by
  have creating : (allowGet || producer.request.method.creates) = true ↔
      allowGet = true ∨ producer.request.method = .post ∨ producer.request.method = .put := by
    simp [Method.creates]
  rw [isValidProducer, Bool.and_eq_true, creating]
  by_cases same : producer.request.endpoint = consumer.slot.request.endpoint
  · rw [if_pos same, Bool.and_eq_true, bne_iff_ne, decide_eq_true_eq]
    constructor
    · rintro ⟨allowed, _, lower⟩
      exact ⟨allowed, fun _ => lower, fun different => absurd same different⟩
    · intro supplies
      have lower := supplies.earlier same
      exact ⟨supplies.creates, fun alike => Nat.ne_of_lt lower (by rw [alike]), lower⟩
  · rw [if_neg same, Bool.not_eq_true', ← Bool.not_eq_true, Endpoint.isLeading_iff]
    constructor
    · rintro ⟨allowed, outside⟩
      exact ⟨allowed, fun alike => absurd alike same, fun _ => outside⟩
    · intro supplies
      exact ⟨supplies.creates, supplies.outside same⟩

/-- A supplier at an endpoint that leads the user's own precedes the user. -/
theorem RequestId.MaySupply.precedes {allowGet : Bool} {supplier user : RequestId}
    (supplies : supplier.MaySupply allowGet user)
    (leads : segments supplier.endpoint <+: segments user.endpoint) : supplier.Precedes user := by
  rcases Nat.lt_or_eq_of_le leads.length_le with shorter | full
  · exact .inl shorter
  · have same : supplier.endpoint = user.endpoint := by
      by_contra different
      have equal := (leads.eq_of_length full).symm
      exact supplies.outside different (equal ▸ List.prefix_rfl)
    exact .inr ⟨same, supplies.earlier same⟩

/-- The response slots at an endpoint are those of requests to it. -/
theorem Catalog.endpoint_of_mem_atEndpoint {catalog : Catalog} {name endpoint : String}
    {methods : List Method} {slot : Slot}
    (member : slot ∈ catalog.atEndpoint name endpoint methods) :
    slot.request.endpoint = endpoint := by
  have passed := (List.mem_filter.mp member).2
  rw [Bool.and_eq_true, beq_iff_eq] at passed
  exact passed.1

namespace Inference

variable {inference : Inference} {consumer : Consumer} {slot : Slot} {name : String}
  {dictionary after : Dictionary} {ofEndpoint : Option Dictionary}

/-- By what a slot of a response reaches a consumer. -/
inductive Route (inference : Inference) (consumer : Consumer) (slot : Slot) : Prop where
  /-- A link asks for it. -/
  | asked (linked : inference.linkedProducer? consumer = some slot)
  /-- It is at the endpoint before a path parameter. -/
  | before (name : String) (kind : consumer.kind = .path)
    (member : slot ∈ inference.atEndpointBefore consumer name)
  /-- It belongs to the request that creates the resource of a path parameter. -/
  | creator (name : String) (kind : consumer.kind = .path)
    (found : inference.created? consumer name = some slot)
  /-- It is at an endpoint similar to that before a path parameter. -/
  | similar (name : String) (kind : consumer.kind = .path)
    (member : slot ∈ inference.atSimilarEndpoint consumer name)
  /-- Its type is that of a query or body value. -/
  | typed (name : String) (kind : consumer.kind ≠ .path)
    (found : inference.valueProducer? consumer name = some slot)

/-- A consumer for which no user asks a link has no linked producer. -/
@[simp] theorem linkedProducer?_plain (inference : Inference) (slot : Slot)
    (kind : ParameterKind) : inference.linkedProducer? (.plain slot kind) = none := by
  rw [linkedProducer?, Consumer.plain, Option.bind_none]

/-- The valid ones of some slots are those whose requests may supply the consumer's. -/
theorem mem_valid_iff {slots : List Slot} :
    slot ∈ inference.valid consumer slots ↔
      slot ∈ slots ∧ slot.request.MaySupply inference.allowGet consumer.slot.request := by
  rw [valid, List.mem_filter, isValidProducer_iff]

/-! ## What each rule lets through -/

/-- A slot at the endpoint before a parameter is one of those in the catalog. -/
theorem mem_atEndpointBefore_iff :
    slot ∈ inference.atEndpointBefore consumer name ↔ ∃ endpoint,
      endpointBefore? consumer = some endpoint ∧ slot ∈ inference.valid consumer
        (inference.catalog.atEndpoint name endpoint inference.methods) := by
  unfold atEndpointBefore
  cases endpointBefore? consumer <;> simp

/-- A slot at the endpoint before a parameter may supply the consumer, and precedes it. -/
theorem supplies_of_mem_atEndpointBefore
    (member : slot ∈ inference.atEndpointBefore consumer name) :
    slot.request.MaySupply inference.allowGet consumer.slot.request ∧
      slot.request.Precedes consumer.slot.request := by
  obtain ⟨endpoint, cut, listed⟩ := mem_atEndpointBefore_iff.mp member
  obtain ⟨placed, supplies⟩ := mem_valid_iff.mp listed
  have shorter := Endpoint.length_segments_before? cut
  rw [← Catalog.endpoint_of_mem_atEndpoint placed] at shorter
  exact ⟨supplies, .inl shorter⟩

/-- A slot at an endpoint similar to that before a parameter is one of those in the catalog that
have a similar name. -/
theorem mem_atSimilarEndpoint_iff :
    slot ∈ inference.atSimilarEndpoint consumer name ↔ ∃ endpoint,
      endpointBefore? consumer = some endpoint ∧
        Endpoint.normalized slot.request.endpoint = Endpoint.normalized endpoint ∧
          slot ∈ inference.catalog.matching name ∧ slot.request.method ∈ inference.methods ∧
            isValidProducer inference.allowGet slot consumer = true := by
  unfold atSimilarEndpoint
  cases endpointBefore? consumer with
  | none => simp
  | some endpoint =>
    simp only [valid, List.mem_filter, Bool.and_eq_true, List.contains_iff_mem, beq_iff_eq,
      Option.some.injEq, exists_eq_left']
    constructor
    · rintro ⟨⟨alike, method, placed⟩, supplies⟩
      exact ⟨placed, alike, method, supplies⟩
    · rintro ⟨placed, alike, method, supplies⟩
      exact ⟨⟨alike, method, placed⟩, supplies⟩

/-- A slot at an endpoint similar to that before a parameter may supply the consumer, and precedes
it. -/
theorem supplies_of_mem_atSimilarEndpoint
    (member : slot ∈ inference.atSimilarEndpoint consumer name) :
    slot.request.MaySupply inference.allowGet consumer.slot.request ∧
      slot.request.Precedes consumer.slot.request := by
  obtain ⟨endpoint, cut, placed, _, _, supplies⟩ := mem_atSimilarEndpoint_iff.mp member
  have shorter := Endpoint.length_segments_before? cut
  rw [← Endpoint.length_segments_of_normalized_eq placed] at shorter
  exact ⟨isValidProducer_iff.mp supplies, .inl shorter⟩

/-- A slot of the request that creates the consumer's resource is one of those in the catalog at the
endpoint through the parameter, under the given name or a usual one. -/
theorem exists_of_created? (found : inference.created? consumer name = some slot) :
    ∃ endpoint,
      Endpoint.through? consumer.slot.name consumer.slot.request.endpoint = some endpoint ∧
        ∃ candidate ∈ [name, "id", "name"], slot ∈ inference.valid consumer
          (inference.catalog.atEndpoint candidate endpoint [.put]) := by
  unfold created? at found
  rw [Option.bind_eq_bind, Option.bind_eq_some_iff] at found
  obtain ⟨endpoint, cut, sought⟩ := found
  obtain ⟨candidate, tried, least⟩ := List.exists_of_findSome?_eq_some sought
  exact ⟨endpoint, cut, candidate, List.mem_eraseDups.mp tried, List.minOn?_mem least⟩

/-- A slot of the request that creates the consumer's resource may supply the consumer, and
precedes it. -/
theorem supplies_of_created? (found : inference.created? consumer name = some slot) :
    slot.request.MaySupply inference.allowGet consumer.slot.request ∧
      slot.request.Precedes consumer.slot.request := by
  obtain ⟨endpoint, cut, candidate, _, listed⟩ := exists_of_created? found
  obtain ⟨placed, supplies⟩ := mem_valid_iff.mp listed
  have leads := Endpoint.segments_through? cut
  rw [← Catalog.endpoint_of_mem_atEndpoint placed] at leads
  exact ⟨supplies, supplies.precedes leads⟩

/-- A slot at the top of a creating request's response may supply the consumer. -/
theorem supplies_of_mem_topOfType {type : String}
    (member : slot ∈ inference.topOfType consumer name type) :
    slot.request.MaySupply inference.allowGet consumer.slot.request := by
  have passed := (List.mem_filter.mp member).2
  rw [Bool.and_eq_true, isValidProducer_iff] at passed
  exact passed.2

/-- A slot of the type of the consumer's container is found under a spelling of this type. -/
theorem exists_type_of_ofContainer? (found : inference.ofContainer? consumer name = some slot) :
    consumer.slot.containerName?.isSome ∧ ∃ type ∈ consumer.slot.candidateTypeNames,
      slot ∈ inference.topOfType consumer name type := by
  unfold ofContainer? at found
  split at found
  · rename_i container first others named spelled
    refine ⟨by rw [named]; rfl, ?_⟩
    rw [spelled]
    rw [Option.or_eq_some_iff] at found
    obtain exact | ⟨_, later⟩ := found
    · exact ⟨first, .head _, List.mem_of_head? exact⟩
    · dsimp only at later
      split at later
      · obtain ⟨type, listed, member⟩ := List.mem_flatMap.mp (List.mem_of_head? later)
        exact ⟨type, .tail _ listed, member⟩
      · cases later
  · cases found

/-- A slot of the type of the consumer's container may supply the consumer. -/
theorem supplies_of_ofContainer? (found : inference.ofContainer? consumer name = some slot) :
    slot.request.MaySupply inference.allowGet consumer.slot.request := by
  obtain ⟨_, type, _, member⟩ := exists_type_of_ofContainer? found
  exact supplies_of_mem_topOfType member

/-- A slot of the type that the consumer's name speaks of is one of those in the catalog. -/
theorem mem_ofImpliedType_iff :
    slot ∈ inference.ofImpliedType consumer name ↔ ∃ type,
      consumer.slot.impliedType? = some type ∧
        slot ∈ inference.valid consumer (inference.catalog.ofType name type) := by
  unfold ofImpliedType
  cases consumer.slot.impliedType? <;> simp

/-- A slot of the type that the consumer's name speaks of may supply the consumer. -/
theorem supplies_of_mem_ofImpliedType (member : slot ∈ inference.ofImpliedType consumer name) :
    slot.request.MaySupply inference.allowGet consumer.slot.request := by
  obtain ⟨type, _, listed⟩ := mem_ofImpliedType_iff.mp member
  exact (mem_valid_iff.mp listed).2

/-- The producer of a query or body value may supply the consumer. -/
theorem supplies_of_valueProducer? (found : inference.valueProducer? consumer name = some slot) :
    slot.request.MaySupply inference.allowGet consumer.slot.request := by
  rw [valueProducer?, Option.or_eq_some_iff] at found
  obtain contained | ⟨_, implied⟩ := found
  · exact supplies_of_ofContainer? contained
  · exact supplies_of_mem_ofImpliedType (List.mem_of_head? implied)

/-! ## All routes -/

/-- A response slot that is no link's may supply the consumer. -/
theorem Route.supplies (route : inference.Route consumer slot)
    (unasked : inference.linkedProducer? consumer ≠ some slot) :
    slot.request.MaySupply inference.allowGet consumer.slot.request := by
  cases route with
  | asked linked => exact absurd linked unasked
  | before name kind member => exact (supplies_of_mem_atEndpointBefore member).1
  | creator name kind found => exact (supplies_of_created? found).1
  | similar name kind member => exact (supplies_of_mem_atSimilarEndpoint member).1
  | typed name kind found => exact supplies_of_valueProducer? found

/-- The request of a response slot that is no link's precedes that of a path it reaches. -/
theorem Route.precedes (route : inference.Route consumer slot)
    (unasked : inference.linkedProducer? consumer ≠ some slot) (kind : consumer.kind = .path) :
    slot.request.Precedes consumer.slot.request := by
  cases route with
  | asked linked => exact absurd linked unasked
  | before name _ member => exact (supplies_of_mem_atEndpointBefore member).2
  | creator name _ found => exact (supplies_of_created? found).2
  | similar name _ member => exact (supplies_of_mem_atSimilarEndpoint member).2
  | typed name other found => exact absurd kind other

/-- A response slot found for a path parameter by a name has a route to it. -/
theorem route_of_pathProducer? (kind : consumer.kind = .path)
    (found : inference.pathProducer? consumer dictionary name = some (.response slot, after)) :
    inference.Route consumer slot := by
  unfold pathProducer? at found
  split at found
  · rename_i head
    cases found
    exact .before name kind (List.mem_of_head? head)
  · split at found
    · cases found
    · obtain ⟨other, sought, built⟩ := Option.map_eq_some_iff.mp found
      cases built
      rw [Option.or_eq_some_iff] at sought
      obtain created | ⟨_, similar⟩ := sought
      · exact .creator name kind created
      · exact .similar name kind (List.mem_of_head? similar)

/-- A response slot found by a name has a route to the consumer. -/
theorem route_of_namedProducer?
    (found : inference.namedProducer? consumer dictionary name = some (.response slot, after)) :
    inference.Route consumer slot := by
  have ofValue : consumer.kind ≠ .path → (inference.valueProducer? consumer name).map
      (fun slot => (Producer.response slot, dictionary)) = some (.response slot, after) →
        inference.Route consumer slot := by
    intro other mapped
    obtain ⟨producer, sought, built⟩ := Option.map_eq_some_iff.mp mapped
    cases built
    exact .typed name other sought
  unfold namedProducer? at found
  split at found
  · rename_i kind
    exact route_of_pathProducer? kind found
  · rename_i kind
    exact ofValue (by rw [kind]; decide) found
  · rename_i kind
    exact ofValue (by rw [kind]; decide) found

/-- A response slot that inference finds has a route to the consumer. -/
theorem route_of_find
    (found : (inference.find consumer dictionary ofEndpoint).1 = some (.response slot)) :
    inference.Route consumer slot := by
  unfold find at found
  split at found
  · rename_i linked
    cases found
    exact .asked linked
  · split at found
    · rename_i producer later inferred
      cases found
      unfold inferred? at inferred
      split at inferred
      · cases inferred
      · obtain ⟨candidate, _, sought⟩ := List.exists_of_findSome?_eq_some inferred
        exact route_of_namedProducer? sought
    · cases found

end Inference

end ApiWiring
