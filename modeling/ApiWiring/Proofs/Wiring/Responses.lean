import ApiWiring.Proofs.Wiring.Origins

/-!
# Response producers of the finished wiring

A response producer of the finished wiring is a slot of some request's response, never of the
request of its consumer, and of all slots surveyed it is the first one with its request and its
path. So the wiring speaks of one value by one slot: two consumers that are supplied by the same
value of the same request have the same producer, type included.
-/
namespace ApiWiring.Passes

open Slot

variable {setting : Setting} {surveys : List Survey} {slot : Slot}

/-- The slots of all responses surveyed, in the order in which they are registered. -/
def responses (surveys : List Survey) : List Slot := surveys.flatMap (·.responses)

/-- The slots of a name that inference chooses from are the responses of this name. -/
theorem named_inference (setting : Setting) (surveys : List Survey) (name : String) :
    (inference setting surveys).catalog.named name =
      (responses surveys).filter (·.name == name) :=
  Catalog.named_ofLists _ _ name

/-- A chosen slot is the first response surveyed for its value. -/
theorem isFirst_of_chosen {consumer : Consumer}
    (chosen : (inference setting surveys).Chosen consumer slot) :
    IsFirst (responses surveys) slot := by
  obtain ⟨name, first⟩ := chosen.first
  rw [named_inference] at first
  exact first.of_filter fun _ => rfl

/-- A response surveyed is a property of some request's response. -/
theorem inBody_of_mem_responses (surveyed : Passes.surveys setting = .ok surveys)
    (member : slot ∈ responses surveys) :
    ∃ request ∈ setting.requests, slot.InBody request.id setting.options.convention := by
  obtain ⟨survey, listed, inside⟩ := List.mem_flatMap.mp member
  obtain ⟨request, asked, done⟩ := request_of_mem_surveys surveyed listed
  exact ⟨request, asked, Survey.inBody_of_mem_responses done inside⟩

/-- First responses surveyed with one request and one path are the same slot. -/
theorem eq_of_isFirst (surveyed : Passes.surveys setting = .ok surveys) {left right : Slot}
    (first : IsFirst (responses surveys) left) (second : IsFirst (responses surveys) right)
    (owner : left.request = right.request) (same : left.accessPath = right.accessPath) :
    left = right := by
  obtain ⟨_, _, leftBody⟩ := inBody_of_mem_responses surveyed first.mem
  obtain ⟨_, _, rightBody⟩ := inBody_of_mem_responses surveyed second.mem
  exact first.unique second (leftBody.untyped_eq rightBody owner same)

variable {result : Result}

/-- The response producers of the finished wiring are chosen from the responses surveyed. -/
theorem chosen_of_run (done : run setting = .ok result) :
    ∃ surveys, Passes.surveys setting = .ok surveys ∧
      ∀ connection ∈ result.wired.wiring.connections, ∀ slot,
        connection.producer? = some (.response slot) →
          (inference setting surveys).Chosen connection.consumer slot := by
  obtain ⟨_, surveys, early, surveyed, origins⟩ := origins_of_run done
  refine ⟨surveys, surveyed, fun connection member slot supplied => ?_⟩
  exact (origins connection member).chosen surveyed supplied

/-- A response producer belongs to one of the requests, and not to that of its consumer. -/
theorem foreign_of_run (done : run setting = .ok result) {connection : Connection}
    (member : connection ∈ result.wired.wiring.connections)
    (supplied : connection.producer? = some (.response slot)) :
    slot.request ≠ connection.consumer.slot.request ∧
      ∃ request ∈ setting.requests, slot.request = request.id := by
  obtain ⟨surveys, surveyed, chosen⟩ := chosen_of_run done
  have picked := chosen connection member slot supplied
  obtain ⟨request, asked, inBody⟩ :=
    inBody_of_mem_responses surveyed (isFirst_of_chosen picked).mem
  exact ⟨picked.foreign, request, asked, inBody.1⟩

/-- Two response producers with one request and one path are the same slot. -/
theorem response_unique_of_run (done : run setting = .ok result) {left right : Connection}
    {first second : Slot} (leftMember : left ∈ result.wired.wiring.connections)
    (rightMember : right ∈ result.wired.wiring.connections)
    (leftSupplied : left.producer? = some (.response first))
    (rightSupplied : right.producer? = some (.response second))
    (owner : first.request = second.request) (same : first.accessPath = second.accessPath) :
    first = second := by
  obtain ⟨surveys, surveyed, chosen⟩ := chosen_of_run done
  exact eq_of_isFirst surveyed (isFirst_of_chosen (chosen left leftMember first leftSupplied))
    (isFirst_of_chosen (chosen right rightMember second rightSupplied)) owner same

end ApiWiring.Passes
