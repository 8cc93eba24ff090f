import ApiWiring.Proofs.Dictionary.Growth
import ApiWiring.Proofs.Wiring.FirstRegistered

/-!
# What inference answers

The rules of inference are gone through once and everything they can answer is said in one place
(`Answer`). A slot of a response that is answered is the one registered first for its value and
belongs to another request than the consumer's own, whichever rule chose it. A dictionary entry that
is answered is found in the endpoint's dictionary or in the general one, or is a unique name that is
registered at once; nothing else changes the dictionary.
-/
namespace ApiWiring

open Slot

/-- Unique names are not among the headers. -/
theorem CustomPayload.section_uniqueName_ne_header (name : String) :
    (uniqueName name).section_ ≠ .header := by
  change DictionarySection.uuidSuffix ≠ .header
  decide

/-- Whether the link asked for a consumer, if there is one, has another request produce. -/
def Consumer.LinkedElsewhere (consumer : Consumer) : Prop :=
  ∀ link, consumer.link = some link → link.producer ≠ consumer.slot.request

namespace Inference

variable {inference : Inference} {consumer : Consumer} {slot : Slot} {name : String}

/-- Whether a slot is one that a rule may choose for a consumer. -/
structure Chosen (inference : Inference) (consumer : Consumer) (slot : Slot) : Prop where
  /-- Of the slots of some name it is the first one registered for its value. -/
  first : ∃ name, IsFirst (inference.catalog.named name) slot
  /-- It belongs to another request. -/
  foreign : slot.request ≠ consumer.slot.request

/-- A valid producer belongs to another request than its consumer. -/
theorem request_ne_of_isValidProducer {allowGet : Bool} {producer : Slot} {consumer : Consumer}
    (valid : isValidProducer allowGet producer consumer = true) :
    producer.request ≠ consumer.slot.request := by
  intro same
  rw [isValidProducer, same, if_pos rfl, bne_self_eq_false] at valid
  simp at valid

/-- The first valid one of some slots is chosen, if the slots themselves put first what was
registered first. -/
theorem chosen_of_valid {slots : List Slot}
    (registered : IsFirst slots slot → ∃ name, IsFirst (inference.catalog.named name) slot)
    (first : IsFirst (inference.valid consumer slots) slot) : inference.Chosen consumer slot where
  first := registered (first.of_filter fun _ => rfl)
  foreign := by
    have passed := (List.mem_filter.mp first.mem).2
    exact request_ne_of_isValidProducer passed

/-- The slots at an endpoint put first what was registered first. -/
theorem registered_of_atEndpoint {endpoint : String} {methods : List Method}
    (first : IsFirst (inference.catalog.atEndpoint name endpoint methods) slot) :
    ∃ name, IsFirst (inference.catalog.named name) slot :=
  ⟨name, first.of_filter fun _ => rfl⟩

/-- The slots of a type put first what was registered first. -/
theorem registered_of_ofType {type : String}
    (first : IsFirst (inference.catalog.ofType name type) slot) :
    ∃ name, IsFirst (inference.catalog.named name) slot :=
  ⟨name, first.of_filter fun _ => rfl⟩

/-- The slots of a name and of similar names put first what was registered first. -/
theorem registered_of_matching (first : IsFirst (inference.catalog.matching name) slot) :
    ∃ name, IsFirst (inference.catalog.named name) slot := by
  have listed : inference.catalog.matching name =
      (name :: inference.catalog.similarNames name).flatMap inference.catalog.named := by
    rw [List.flatMap_cons]
    rfl
  rw [listed] at first
  obtain ⟨other, _, among⟩ := first.of_flatMap
  exact ⟨other, among⟩

/-! ## The rules -/

/-- A slot at the endpoint before the consumer's segment is chosen. -/
theorem chosen_of_atEndpointBefore
    (first : IsFirst (inference.atEndpointBefore consumer name) slot) :
    inference.Chosen consumer slot := by
  unfold atEndpointBefore at first
  split at first
  · exact chosen_of_valid registered_of_atEndpoint first
  · exact absurd first.mem List.not_mem_nil

/-- A slot at an endpoint similar to that before the consumer's segment is chosen. -/
theorem chosen_of_atSimilarEndpoint
    (first : IsFirst (inference.atSimilarEndpoint consumer name) slot) :
    inference.Chosen consumer slot := by
  unfold atSimilarEndpoint at first
  split at first
  · refine chosen_of_valid (fun among => ?_) first
    exact registered_of_matching (among.of_filter fun _ => rfl)
  · exact absurd first.mem List.not_mem_nil

/-- A slot of the request that creates the consumer's resource is chosen. -/
theorem chosen_of_created? (found : inference.created? consumer name = some slot) :
    inference.Chosen consumer slot := by
  unfold created? at found
  rw [Option.bind_eq_bind, Option.bind_eq_some_iff] at found
  obtain ⟨endpoint, _, sought⟩ := found
  obtain ⟨candidate, _, least⟩ := List.exists_of_findSome?_eq_some sought
  have first := isFirst_of_minOn? (fun _ => rfl) least
  exact chosen_of_valid registered_of_atEndpoint first

/-- A slot at the top of a creating request's response is chosen. -/
theorem chosen_of_topOfType {type : String}
    (first : IsFirst (inference.topOfType consumer name type) slot) :
    inference.Chosen consumer slot where
  first := registered_of_ofType (first.of_filter fun _ => rfl)
  foreign := by
    have passed := (List.mem_filter.mp first.mem).2
    rw [Bool.and_eq_true] at passed
    exact request_ne_of_isValidProducer passed.2

/-- A slot of the type of the consumer's container is chosen. -/
theorem chosen_of_ofContainer? (found : inference.ofContainer? consumer name = some slot) :
    inference.Chosen consumer slot := by
  unfold ofContainer? at found
  split at found
  · rw [Option.or_eq_some_iff] at found
    obtain exact | ⟨_, others⟩ := found
    · exact chosen_of_topOfType (isFirst_of_head? exact)
    · dsimp only at others
      split at others
      · obtain ⟨type, _, among⟩ := (isFirst_of_head? others).of_flatMap
        exact chosen_of_topOfType among
      · cases others
  · cases found

/-- A slot of the type that the consumer's name speaks of is chosen. -/
theorem chosen_of_ofImpliedType (first : IsFirst (inference.ofImpliedType consumer name) slot) :
    inference.Chosen consumer slot := by
  unfold ofImpliedType at first
  split at first
  · exact chosen_of_valid registered_of_ofType first
  · exact absurd first.mem List.not_mem_nil

/-- The producer of a query or body value is chosen. -/
theorem chosen_of_valueProducer? (found : inference.valueProducer? consumer name = some slot) :
    inference.Chosen consumer slot := by
  rw [valueProducer?, Option.or_eq_some_iff] at found
  obtain contained | ⟨_, implied⟩ := found
  · exact chosen_of_ofContainer? contained
  · exact chosen_of_ofImpliedType (isFirst_of_head? implied)

/-- The producer that a link names is chosen, if the link does not have a request produce for
itself. -/
theorem chosen_of_linkedProducer? (apart : consumer.LinkedElsewhere)
    (found : inference.linkedProducer? consumer = some slot) : inference.Chosen consumer slot := by
  rw [linkedProducer?, Option.bind_eq_some_iff] at found
  obtain ⟨link, asked, named⟩ := found
  rw [Link.producerSlot?, Option.bind_eq_bind, Option.bind_eq_some_iff] at named
  obtain ⟨name, _, sought⟩ := named
  have first :
      IsFirst ((inference.catalog.named name).filter (·.request == link.producer)) slot := by
    split at sought
    · exact isFirst_of_find? (fun _ => rfl) sought
    · exact isFirst_of_minOn? (fun _ => rfl) sought
  have owner : slot.request = link.producer := by
    have passed := (List.mem_filter.mp first.mem).2
    simpa using passed
  refine ⟨⟨name, first.of_filter fun _ => rfl⟩, ?_⟩
  rw [owner]
  exact apart link asked

/-! ## All answers -/

/-- A producer that inference answers for a consumer, with the dictionary after it. -/
inductive Answer (inference : Inference) (consumer : Consumer) (ofEndpoint : Option Dictionary)
    (before : Dictionary) : Producer → Dictionary → Prop where
  /-- A slot of a response. -/
  | response (slot : Slot) (chosen : inference.Chosen consumer slot) :
    Answer inference consumer ofEndpoint before (.response slot) before
  /-- An entry of the endpoint's dictionary. -/
  | special (entry : CustomPayload) (own : Dictionary) (given : ofEndpoint = some own)
    (sought : entry.section_ ≠ .header) (member : entry.name ∈ own.keys entry.section_) :
    Answer inference consumer ofEndpoint before (.dictionary entry) before
  /-- An entry of the general dictionary. -/
  | general (entry : CustomPayload) (sought : entry.section_ ≠ .header)
    (member : entry.name ∈ before.keys entry.section_) :
    Answer inference consumer ofEndpoint before (.dictionary entry) before
  /-- The unique name of a resource that the request creates. -/
  | minted (creates : createsOwnResource consumer = true) :
    Answer inference consumer ofEndpoint before (.dictionary (uniqueName consumer before))
      (before.register (uniqueName consumer before)).1

variable {ofEndpoint : Option Dictionary} {before after : Dictionary} {producer : Producer}

/-- A key found in a dictionary is a key of the section found. -/
theorem mem_keys_of_entryFor? {dictionary : Dictionary} {key stored : String}
    {from_ : DictionarySection} (found : entryFor? dictionary key = some (from_, stored)) :
    from_ ≠ .header ∧ stored ∈ dictionary.keys from_ := by
  simp only [entryFor?, Option.or_eq_some_iff, Option.map_eq_some_iff, Prod.mk.injEq] at found
  obtain ⟨_, plain, rfl, rfl⟩ | ⟨_, _, unique, rfl, rfl⟩ := found
  · exact ⟨by decide, (Entries.mem_keys_of_key? plain).1⟩
  · exact ⟨by decide, (Entries.mem_keys_of_key? unique).1⟩

/-- The dictionary entry of a consumer is an answer. -/
theorem answer_of_dictionaryEntry? {entry : CustomPayload}
    (found : dictionaryEntry? consumer ofEndpoint before = some entry) :
    Answer inference consumer ofEndpoint before (.dictionary entry) before := by
  unfold dictionaryEntry? at found
  rw [Option.map_eq_some_iff] at found
  obtain ⟨⟨from_, stored⟩, sought, rfl⟩ := found
  obtain ⟨source, listed, keyed⟩ := List.exists_of_findSome?_eq_some sought
  obtain ⟨key, _, stocked⟩ := List.exists_of_findSome?_eq_some keyed
  obtain ⟨sectioned, member⟩ := mem_keys_of_entryFor? stocked
  rcases List.mem_append.mp listed with own | general
  · exact .special _ source (Option.mem_toList.mp own) sectioned member
  · rw [List.mem_singleton] at general
    subst general
    exact .general _ sectioned member

/-- The producer of a path parameter is an answer. -/
theorem answer_of_pathProducer?
    (found : inference.pathProducer? consumer before name = some (producer, after)) :
    Answer inference consumer ofEndpoint before producer after := by
  unfold pathProducer? at found
  split at found
  · rename_i slot head
    cases found
    exact .response slot (chosen_of_atEndpointBefore (isFirst_of_head? head))
  · split at found
    · rename_i creates
      cases found
      exact .minted creates
    · rw [Option.map_eq_some_iff] at found
      obtain ⟨slot, sought, built⟩ := found
      cases built
      rw [Option.or_eq_some_iff] at sought
      obtain created | ⟨_, similar⟩ := sought
      · exact .response slot (chosen_of_created? created)
      · exact .response slot (chosen_of_atSimilarEndpoint (isFirst_of_head? similar))

/-- The producer by a name is an answer. -/
theorem answer_of_namedProducer?
    (found : inference.namedProducer? consumer before name = some (producer, after)) :
    Answer inference consumer ofEndpoint before producer after := by
  have ofValue : ∀ {result}, (inference.valueProducer? consumer name).map
        (fun slot => (Producer.response slot, before)) = some result →
      Answer inference consumer ofEndpoint before result.1 result.2 := by
    intro result mapped
    obtain ⟨slot, sought, rfl⟩ := Option.map_eq_some_iff.mp mapped
    exact .response slot (chosen_of_valueProducer? sought)
  unfold namedProducer? at found
  split at found
  · exact answer_of_pathProducer? found
  · exact ofValue found
  · exact ofValue found

/-- The producer that inference finds is an answer, if the consumer's link does not have a request
produce for itself. -/
theorem answer_of_find (apart : consumer.LinkedElsewhere)
    (found : inference.find consumer before ofEndpoint = (some producer, after)) :
    Answer inference consumer ofEndpoint before producer after := by
  unfold find at found
  split at found
  · rename_i slot linked
    cases found
    exact .response slot (chosen_of_linkedProducer? apart linked)
  · split at found
    · rename_i other later inferred
      cases found
      unfold inferred? at inferred
      split at inferred
      · rename_i entry stocked
        cases inferred
        exact answer_of_dictionaryEntry? stocked
      · obtain ⟨candidate, _, sought⟩ := List.exists_of_findSome?_eq_some inferred
        exact answer_of_namedProducer? sought
    · cases found

/-- Where inference finds nothing, it leaves the dictionary as it was. -/
theorem dictionary_eq_of_find_none
    (found : inference.find consumer before ofEndpoint = (none, after)) : after = before := by
  unfold find at found
  split at found
  · cases found
  · split at found
    · cases found
    · cases found
      rfl

/-- An answer makes the dictionary grow. -/
theorem Answer.extends (answer : Answer inference consumer ofEndpoint before producer after) :
    after.Extends before := by
  cases answer with
  | minted => exact Dictionary.extends_register _ _
  | _ => exact .refl before

/-- Finding a producer makes the dictionary grow, also where none is found. -/
theorem extends_find
    (apart : ∀ link, consumer.link = some link → link.producer ≠ consumer.slot.request) :
    (inference.find consumer before ofEndpoint).2.Extends before := by
  cases found : inference.find consumer before ofEndpoint with
  | mk result after =>
    cases result with
    | none =>
      rw [dictionary_eq_of_find_none found]
      exact .refl before
    | some producer => exact (answer_of_find apart found).extends

/-- An answered dictionary entry is in the endpoint's dictionary, or the dictionary after the answer
holds it. -/
theorem Answer.stocked {entry : CustomPayload}
    (answer : Answer inference consumer ofEndpoint before (.dictionary entry) after) :
    entry.section_ ≠ .header ∧
      ((∃ own, ofEndpoint = some own ∧ entry.name ∈ own.keys entry.section_) ∨
        after.Holds entry.section_ entry.name) := by
  cases answer with
  | special entry own given sought member => exact ⟨sought, .inl ⟨own, given, member⟩⟩
  | general entry sought member => exact ⟨sought, .inr (.of_mem member)⟩
  | minted =>
    have held := Dictionary.holds_register before (uniqueName consumer before)
    exact ⟨CustomPayload.section_uniqueName_ne_header _, .inr held⟩

end Inference

end ApiWiring
