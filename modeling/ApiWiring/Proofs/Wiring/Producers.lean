import ApiWiring.Proofs.Wiring.Nodes
import ApiWiring.Proofs.Wiring.Responses
import ApiWiring.Proofs.Wiring.Routes
import ApiWiring.Proofs.Wiring.Siblings

/-!
# Producers of the finished wiring

Every producer of the finished wiring was found for its own consumer: a slot of a response has a
route to it, and a property of the same body is the sibling chosen for it. What a slot is on its own
is read off the surveys: a response slot is offered by one of the requests, a sibling is sent in the
body of one.
-/
namespace ApiWiring

/-- Two slots share a type name when some spelling belongs to both. -/
theorem Inference.sharedTypeLength?_isSome_iff {left right : Slot} :
    (sharedTypeLength? left right).isSome ↔
      ∃ type, type ∈ left.candidateTypeNames ∧ type ∈ right.candidateTypeNames := by
  rw [sharedTypeLength?, List.isSome_max?_iff, ne_eq, List.map_eq_nil_iff, List.filter_eq_nil_iff]
  simp only [List.contains_iff_mem, not_forall, not_not, exists_prop]

/-- Whether a slot is a `name` property that may supply an `id` property of the same body. -/
structure Slot.IsSiblingOf (slot : Slot) (consumer : Consumer) : Prop where
  /-- The consumer is in a body. -/
  kind : consumer.kind = .body
  /-- It is called `id`. -/
  identifies : consumer.slot.name = "id"
  /-- The slot is called `name`. -/
  names : slot.name = "name"
  /-- Both are sent by one request. -/
  request : slot.request = consumer.slot.request
  /-- The slot is nearer to the root. -/
  nearer : slot.accessPath.length < consumer.slot.accessPath.length
  /-- The two are not beside each other. -/
  apart : slot.accessPath.parent ≠ consumer.slot.accessPath.parent
  /-- They may belong to one type. -/
  shared : ∃ type, type ∈ slot.candidateTypeNames ∧ type ∈ consumer.slot.candidateTypeNames

namespace Passes

variable {setting : Setting} {surveys : List Survey} {early : Wiring} {final : Dictionary}
  {connection : Connection} {slot : Slot} {result : Result}

/-- A response producer has a route to its consumer. -/
theorem Origin.route (origin : Origin setting surveys early final connection)
    (supplied : connection.producer? = some (.response slot)) :
    (inference setting surveys).Route connection.consumer slot := by
  cases origin with
  | inferred survey listed raw member merged since taken kept =>
    have given := Connection.producer?_of_respelled supplied rfl
    obtain ⟨_, before, _, found⟩ :=
      find_of_mem_inferAll (fun _ => True) (fun _ _ _ _ => trivial) trivial member
    rw [Connection.consumer_respelled]
    exact Inference.route_of_find (found.symm.trans given)
  | paired survey listed consumer inSurvey raw member current kept =>
    have given := Connection.producer?_of_respelled supplied rfl
    obtain ⟨_, _, _, _, rfl | rfl, _⟩ := pair_of_mem_siblingConnections member
    · cases given
    · cases given

/-- A response surveyed is offered by one of the requests. -/
theorem offered_of_mem_responses (surveyed : Passes.surveys setting = .ok surveys)
    (member : slot ∈ responses surveys) :
    ∃ request ∈ setting.requests, request.Offers setting.options.convention slot := by
  obtain ⟨survey, listed, inside⟩ := List.mem_flatMap.mp member
  obtain ⟨request, asked, done⟩ := request_of_mem_surveys surveyed listed
  rw [(Survey.ofRequest_eq_ok done).2.1, Survey.mem_responseSlots_iff] at inside
  exact ⟨request, asked, inside⟩

/-- A property that a survey lists as a sibling is sent in a body of one of the requests. -/
theorem sent_of_mem_siblings (surveyed : Passes.surveys setting = .ok surveys) {survey : Survey}
    (listed : survey ∈ surveys) (member : slot ∈ survey.siblings) :
    ∃ request ∈ setting.requests, request.Sends setting.options slot := by
  obtain ⟨request, asked, done⟩ := request_of_mem_surveys surveyed listed
  rw [(Survey.ofRequest_eq_ok done).2.2.1] at member
  exact ⟨request, asked, Survey.sends_of_mem_bodySlots (List.mem_filter.mp member).1⟩

/-- A sibling chosen for a consumer is one, and it is sent in a body of one of the requests. -/
theorem isSiblingOf_of_sibling? (surveyed : Passes.surveys setting = .ok surveys)
    {consumer : Consumer} (found : (inference setting surveys).sibling? consumer = some slot) :
    slot.IsSiblingOf consumer ∧
      ∃ request ∈ setting.requests, request.Sends setting.options slot := by
  obtain ⟨kind, identifies, ⟨survey, listed, inside⟩, names, request, valid⟩ :=
    listed_of_sibling? found
  simp only [Inference.isValidSibling, Bool.and_eq_true, decide_eq_true_eq, bne_iff_ne,
    Inference.sharedTypeLength?_isSome_iff] at valid
  obtain ⟨⟨nearer, apart⟩, shared⟩ := valid
  have sibling : slot.IsSiblingOf consumer :=
    { kind, identifies, names, request, nearer, apart, shared }
  exact ⟨sibling, sent_of_mem_siblings surveyed listed inside⟩

/-- The producers of the finished wiring, each found for its own consumer. -/
theorem found_of_run (ran : run setting = .ok result) :
    ∃ surveys, Passes.surveys setting = .ok surveys ∧
      ∀ connection ∈ result.wired.wiring.connections, ∀ slot,
        (connection.producer? = some (.response slot) →
          slot ∈ responses surveys ∧ slot.request ≠ connection.consumer.slot.request ∧
            (inference setting surveys).Route connection.consumer slot) ∧
          (connection.producer? = some (.sibling slot) →
            (inference setting surveys).sibling? connection.consumer = some slot) := by
  obtain ⟨_, surveys, early, surveyed, origins⟩ := origins_of_run ran
  refine ⟨surveys, surveyed, fun connection member slot => ⟨fun supplied => ?_, fun supplied => ?_⟩⟩
  · have chosen := (origins connection member).chosen surveyed supplied
    exact ⟨(isFirst_of_chosen chosen).mem, chosen.foreign,
      (origins connection member).route supplied⟩
  · exact ((origins connection member).partner surveyed supplied).1

end Passes

end ApiWiring
