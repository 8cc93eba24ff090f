import ApiWiring.Proofs.Representatives
import ApiWiring.Proofs.Wiring.Registration
import ApiWiring.Proofs.Wiring.Reinference
import ApiWiring.Proofs.Wiring.Routes

/-!
# What a query or body value may be supplied by

A value of a query or a body that neither a link nor a dictionary supplies gets its value from a
registered slot of exactly one of its names: from the top of a creating response whose type is that
of the value's container, or from any place where the type is the one that the value's name speaks
of. The container has a name in several spellings. The first of them goes before the others, and
these decide only together: all slots found under any of them have to be at one endpoint
(`Inference.AtOneEndpoint`), of which the first slot is taken.
-/
namespace ApiWiring

/-- Whether a slot may supply a value as the type of its container. -/
structure Slot.FitsContainer (consumer : Consumer) (slot : Slot) : Prop where
  /-- The value has a container. -/
  contained : consumer.slot.containerName?.isSome
  /-- The slot is at the top of its response. -/
  top : slot.accessPath.length = 1
  /-- The response is that of a request that creates. -/
  method : slot.request.method = .post ∨ slot.request.method = .put
  /-- The two share the spelling of a type. -/
  shared : ∃ type ∈ consumer.slot.candidateTypeNames, type ∈ slot.candidateTypeNames

/-- The registered slots of a name at the top of a creating response that have a type and may supply
a consumer, in the order of registration. -/
def Registration.topOfType (registrations : List Registration) (allowGet : Bool)
    (consumer : Consumer) (name type : String) : List Slot :=
  (Registration.responses registrations).filter fun slot =>
    slot.name == name && slot.candidateTypeNames.contains type &&
      (slot.request.method == .post || slot.request.method == .put) &&
        slot.accessPath.length == 1 && isValidProducer allowGet slot consumer

namespace Inference

variable {registrations : List Registration} {allowGet : Bool} {consumer : Consumer} {slot : Slot}
  {name : String} {dictionary after : Dictionary} {ofEndpoint : Option Dictionary}

/-! ## The type of the container -/

/-- Whether there are slots and all of them are at one endpoint. -/
def AtOneEndpoint (slots : List Slot) : Prop :=
  ∃ endpoint, ∀ other, (∃ slot ∈ slots, slot.request.endpoint = other) ↔ other = endpoint

/-- Slots with one endpoint among them are there and at one endpoint. -/
theorem atOneEndpoint_iff {slots : List Slot} :
    (slots.map (·.request.endpoint)).eraseDups.length = 1 ↔ AtOneEndpoint slots := by
  rw [Representatives.length_eraseDups_eq_one_iff, AtOneEndpoint]
  simp only [List.mem_map]

/-- Slots at one endpoint are there. -/
theorem AtOneEndpoint.exists_head? {slots : List Slot} (one : AtOneEndpoint slots) :
    ∃ slot, slots.head? = some slot := by
  obtain ⟨endpoint, each⟩ := one
  obtain ⟨slot, member, _⟩ := (each endpoint).mpr rfl
  cases slots with
  | nil => exact absurd member List.not_mem_nil
  | cons first rest => exact ⟨first, rfl⟩

/-- What is found under a type are the registered slots that have it, in their order. -/
theorem topOfType_ofRegistrations (type : String) :
    (ofRegistrations registrations allowGet).topOfType consumer name type =
      Registration.topOfType registrations allowGet consumer name type := by
  rw [topOfType, ofRegistrations, Catalog.ofRegistrations_eq_ofLists, Catalog.ofType_ofLists,
    List.filter_filter, Registration.topOfType]
  refine List.filter_congr fun slot _ => ?_
  rw [Method.creates]
  ac_rfl

/-- Where no slot has the first spelling of the container's type, the rule for containers gives the
first of the slots that have another one, if these are at one endpoint, and otherwise nothing. -/
theorem ofContainer?_eq_some_iff {inference : Inference}
    (contained : consumer.slot.containerName?.isSome)
    (nothing : ∀ first, consumer.slot.candidateTypeNames.head? = some first →
      inference.topOfType consumer name first = []) :
    inference.ofContainer? consumer name = some slot ↔
      AtOneEndpoint
          (consumer.slot.candidateTypeNames.tail.flatMap (inference.topOfType consumer name)) ∧
        (consumer.slot.candidateTypeNames.tail.flatMap (inference.topOfType consumer name)).head? =
          some slot := by
  obtain ⟨container, named⟩ := Option.isSome_iff_exists.mp contained
  unfold ofContainer?
  rw [named]
  cases spelled : consumer.slot.candidateTypeNames with
  | nil => simp
  | cons first others =>
    have none_first : inference.topOfType consumer name first = [] :=
      nothing first (by rw [spelled, List.head?_cons])
    dsimp only
    rw [none_first, List.head?_nil, Option.none_or, List.tail_cons, ← atOneEndpoint_iff]
    exact Option.ite_none_right_eq_some

/-- What the rule for containers finds is registered, may supply the value, has the name and fits
the container. -/
theorem fits_of_ofContainer?
    (found : (ofRegistrations registrations allowGet).ofContainer? consumer name = some slot) :
    .response slot ∈ registrations ∧ isValidProducer allowGet slot consumer = true ∧
      slot.name = name ∧ slot.FitsContainer consumer := by
  obtain ⟨contained, type, spelled, member⟩ := exists_type_of_ofContainer? found
  rw [topOfType_ofRegistrations, Registration.topOfType, List.mem_filter,
    Registration.mem_responses_iff] at member
  simp only [Bool.and_eq_true, Bool.or_eq_true, beq_iff_eq, List.contains_iff_mem] at member
  obtain ⟨registered, ⟨⟨⟨named, typed⟩, method⟩, top⟩, supplies⟩ := member
  exact ⟨registered, supplies, named, contained, top, method, type, spelled, typed⟩

/-! ## All rules -/

/-- What the rules for query and body values find by a name is registered, may supply the value, has
the name, and fits the container or has the type that the value's name speaks of. -/
theorem fits_of_valueProducer?
    (found : (ofRegistrations registrations allowGet).valueProducer? consumer name = some slot) :
    .response slot ∈ registrations ∧ isValidProducer allowGet slot consumer = true ∧
      slot.name = name ∧ (slot.FitsContainer consumer ∨
        ∃ type, consumer.slot.impliedType? = some type ∧ type ∈ slot.candidateTypeNames) := by
  rw [valueProducer?, Option.or_eq_some_iff] at found
  rcases found with contained | ⟨_, implied⟩
  · obtain ⟨registered, supplies, named, fits⟩ := fits_of_ofContainer? contained
    exact ⟨registered, supplies, named, .inl fits⟩
  · obtain ⟨type, speaks, member⟩ := mem_ofImpliedType_iff.mp (List.mem_of_head? implied)
    obtain ⟨typed, supplies⟩ := List.mem_filter.mp member
    obtain ⟨registered, named, listed⟩ := Catalog.mem_ofType_iff.mp typed
    exact ⟨registered, supplies, named, .inr ⟨type, speaks, listed⟩⟩

/-- A query or body value that neither a link nor a dictionary supplies is answered by the rules for
such values, if at all, and the dictionary stays as it is. -/
theorem value_of_find {inference : Inference} {producer : Producer} (kind : consumer.kind ≠ .path)
    (unlinked : inference.linkedProducer? consumer = none)
    (missing : dictionaryEntry? consumer ofEndpoint dictionary = none)
    (found : inference.find consumer dictionary ofEndpoint = (some producer, after)) :
    ∃ slot, producer = .response slot ∧ after = dictionary ∧ ∃ name ∈ consumer.candidateNames,
      inference.valueProducer? consumer name = some slot := by
  have named : ∀ name, inference.namedProducer? consumer dictionary name =
      (inference.valueProducer? consumer name).map (.response ·, dictionary) := by
    intro name
    unfold namedProducer?
    split
    · rename_i path
      exact absurd path kind
    · rfl
    · rfl
  rw [find_of_names unlinked missing] at found
  cases sought : consumer.candidateNames.findSome?
      (inference.namedProducer? consumer dictionary) with
  | none =>
    rw [sought] at found
    cases found
  | some answer =>
    rw [sought] at found
    cases found
    obtain ⟨name, listed, here⟩ := List.exists_of_findSome?_eq_some sought
    rw [named] at here
    obtain ⟨slot, supplied, rfl⟩ := Option.map_eq_some_iff.mp here
    exact ⟨slot, rfl, rfl, name, listed, supplied⟩

/-- What becomes of a query or body value that neither a link nor a dictionary supplies. What it is
answered by, if anything, is a registered slot that may supply it and has exactly one of its names;
and it fits the value's container, or it has the type that the value's name speaks of. Where a value
has a container and no slot of a name has the first spelling of the container's type, the rule for
containers gives a slot exactly if the slots that have another spelling are at one endpoint, and
then the first of these; with two endpoints it gives nothing. -/
theorem find_value (registrations : List Registration) (allowGet : Bool) (consumer : Consumer) :
    (consumer.kind ≠ .path → ∀ dictionary ofEndpoint,
      (ofRegistrations registrations allowGet).linkedProducer? consumer = none →
      dictionaryEntry? consumer ofEndpoint dictionary = none → ∀ producer after,
      (ofRegistrations registrations allowGet).find consumer dictionary ofEndpoint =
        (some producer, after) →
      ∃ slot, producer = .response slot ∧ after = dictionary ∧ .response slot ∈ registrations ∧
        isValidProducer allowGet slot consumer = true ∧ slot.name ∈ consumer.candidateNames ∧
          (slot.FitsContainer consumer ∨
            ∃ type, consumer.slot.impliedType? = some type ∧ type ∈ slot.candidateTypeNames)) ∧
    (consumer.slot.containerName?.isSome → ∀ name,
      (∀ first, consumer.slot.candidateTypeNames.head? = some first →
        Registration.topOfType registrations allowGet consumer name first = []) →
      let slots := consumer.slot.candidateTypeNames.tail.flatMap
        (Registration.topOfType registrations allowGet consumer name)
      let answer := (ofRegistrations registrations allowGet).ofContainer? consumer name
      (answer.isSome ↔ AtOneEndpoint slots) ∧
      (∀ slot, answer = some slot → slots.head? = some slot) ∧
      ∀ left ∈ slots, ∀ right ∈ slots, left.request.endpoint ≠ right.request.endpoint →
        answer = none) := by
  constructor
  · intro kind dictionary ofEndpoint unlinked missing producer after found
    obtain ⟨slot, supplied, kept, name, listed, valued⟩ :=
      value_of_find kind unlinked missing found
    obtain ⟨registered, supplies, rfl, fits⟩ := fits_of_valueProducer? valued
    exact ⟨slot, supplied, kept, registered, supplies, listed, fits⟩
  · intro contained name nothing slots answer
    have listed : (ofRegistrations registrations allowGet).topOfType consumer name =
        Registration.topOfType registrations allowGet consumer name :=
      funext topOfType_ofRegistrations
    have found : ∀ slot, answer = some slot ↔ AtOneEndpoint slots ∧ slots.head? = some slot := by
      intro slot
      have unspelled : ∀ first, consumer.slot.candidateTypeNames.head? = some first →
          (ofRegistrations registrations allowGet).topOfType consumer name first = [] := by
        rwa [listed]
      have chosen : answer = some slot ↔ _ := ofContainer?_eq_some_iff contained unspelled
      rwa [listed] at chosen
    refine ⟨?_, fun slot there => ((found slot).mp there).2, ?_⟩
    · rw [Option.isSome_iff_exists]
      constructor
      · rintro ⟨slot, there⟩
        exact ((found slot).mp there).1
      · intro one
        obtain ⟨slot, first⟩ := one.exists_head?
        exact ⟨slot, (found slot).mpr ⟨one, first⟩⟩
    · intro left inLeft right inRight differ
      cases there : answer with
      | none => rfl
      | some slot =>
        obtain ⟨endpoint, each⟩ := ((found slot).mp there).1
        have atLeft := (each _).mp ⟨left, inLeft, rfl⟩
        have atRight := (each _).mp ⟨right, inRight, rfl⟩
        exact absurd (atLeft.trans atRight.symm) differ

/-- The slot that names a network in the response of a request. -/
def networkSlot (endpoint : String) (method : Method) : Slot :=
  ⟨⟨endpoint, method⟩, "id", .body ⟨["id"]⟩, none, .string⟩

/-- The slot of a request that creates networks. -/
def oneNetwork : List Registration := [.response (networkSlot "/networks" .post)]

/-- The slots of two requests that create networks, at different endpoints. -/
def twoNetworks : List Registration :=
  oneNetwork ++ [.response (networkSlot "/regions/\x7bregionName\x7d/networks" .put)]

/-- The value in a body that names a network. -/
def networkValue : Consumer :=
  .plain ⟨⟨"/gateways", .post⟩, "id", .body ⟨["virtualNetworks", "id"]⟩, none, .string⟩ .body

/-- The value is answered by the slot of a network where one endpoint has networks, and the rule for
containers gives nothing where two have. -/
theorem networkValue_find :
    networkValue.kind ≠ .path ∧
    (ofRegistrations oneNetwork false).linkedProducer? networkValue = none ∧
    dictionaryEntry? networkValue none .empty = none ∧
    (∃ slot after, (ofRegistrations oneNetwork false).find networkValue .empty none =
        (some (.response slot), after) ∧
      (slot.FitsContainer networkValue ∨ ∃ type, networkValue.slot.impliedType? = some type ∧
        type ∈ slot.candidateTypeNames)) ∧
    networkValue.slot.containerName?.isSome ∧
    (∀ first, networkValue.slot.candidateTypeNames.head? = some first →
      Registration.topOfType twoNetworks false networkValue "id" first = []) ∧
    (ofRegistrations twoNetworks false).ofContainer? networkValue "id" = none := by
  have kind : networkValue.kind ≠ .path := by decide
  have missing : dictionaryEntry? networkValue none .empty = none := by decide +kernel
  have contained : networkValue.slot.containerName?.isSome := by decide +kernel
  have nothing : ∀ first, networkValue.slot.candidateTypeNames.head? = some first →
      Registration.topOfType twoNetworks false networkValue "id" first = [] := by
    intro first leading
    have spelled : networkValue.slot.candidateTypeNames.head? = some "virtualNetworks" := by
      decide +kernel
    rw [spelled, Option.some.injEq] at leading
    subst leading
    decide +kernel
  have found : ((ofRegistrations oneNetwork false).find networkValue .empty none).1.isSome =
      true := by decide +kernel
  obtain ⟨producer, there⟩ := Option.isSome_iff_exists.mp found
  have answered : (ofRegistrations oneNetwork false).find networkValue .empty none =
      (some producer, ((ofRegistrations oneNetwork false).find networkValue .empty none).2) :=
    Prod.ext there rfl
  obtain ⟨slot, rfl, _, _, _, _, fits⟩ :=
    (find_value oneNetwork false networkValue).1 kind .empty none rfl missing producer _ answered
  obtain ⟨_, _, ambiguous⟩ := (find_value twoNetworks false networkValue).2 contained "id" nothing
  refine ⟨kind, rfl, missing, ⟨slot, _, answered, fits⟩, contained, nothing, ?_⟩
  refine ambiguous (networkSlot "/networks" .post) ?_
    (networkSlot "/regions/\x7bregionName\x7d/networks" .put) ?_ ?_
  · decide +kernel
  · decide +kernel
  · decide

end Inference

end ApiWiring
