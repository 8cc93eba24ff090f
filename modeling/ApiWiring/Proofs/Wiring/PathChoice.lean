import ApiWiring.Proofs.Wiring.Minting
import ApiWiring.Proofs.Wiring.Registration
import ApiWiring.Proofs.Wiring.Routes

/-!
# What a path parameter may be supplied by

A path parameter that neither a link nor a dictionary supplies gets its value from one of two kinds
of registered slots: those at the endpoint before it, whose names are alike and whose endpoints are
the same without parameter names (`Slot.BeforeParameter`), and those of the creating request at the
endpoint through it (`Slot.ThroughParameter`). Each rule by itself answers with such slots only; all
rules together, over all names of the parameter, leave out none. So the search finds nothing exactly
where there are none. Only the request that creates the resource of the parameter never fails to
find something: it makes a unique name.
-/
namespace ApiWiring

/-- Whether a registered slot may supply a path parameter from the endpoint before it. -/
structure Slot.BeforeParameter (registrations : List Registration) (allowGet : Bool)
    (consumer : Consumer) (slot : Slot) : Prop where
  /-- It is registered. -/
  registered : .response slot ∈ registrations
  /-- It may supply the consumer. -/
  valid : isValidProducer allowGet slot consumer = true
  /-- It answers a request that creates, or one that reads if these may produce. -/
  method : slot.request.method = .post ∨ slot.request.method = .put ∨
    allowGet = true ∧ slot.request.method = .get
  /-- Its name differs from one of those to look for in casing style only. -/
  named : ∃ name ∈ consumer.candidateNames,
    Naming.normalized slot.name = Naming.normalized name
  /-- Its endpoint is the one before the parameter, without parameter names. -/
  placed : ∃ endpoint,
    Endpoint.before? consumer.slot.name consumer.slot.request.endpoint = some endpoint ∧
      Endpoint.normalized slot.request.endpoint = Endpoint.normalized endpoint

/-- Whether a registered slot may supply a path parameter from the request that creates its
resource. -/
structure Slot.ThroughParameter (registrations : List Registration) (allowGet : Bool)
    (consumer : Consumer) (slot : Slot) : Prop where
  /-- It is registered. -/
  registered : .response slot ∈ registrations
  /-- It may supply the consumer. -/
  valid : isValidProducer allowGet slot consumer = true
  /-- It answers a request that puts something in its place. -/
  method : slot.request.method = .put
  /-- Its name is one of those to look for, or a usual one. -/
  named : slot.name ∈ consumer.candidateNames ∨ slot.name = "id" ∨ slot.name = "name"
  /-- Its endpoint is the one through the parameter. -/
  placed : Endpoint.through? consumer.slot.name consumer.slot.request.endpoint =
    some slot.request.endpoint

/-- A consumer has names to look for. -/
theorem Consumer.name_mem_candidateNames (consumer : Consumer) :
    consumer.slot.name ∈ consumer.candidateNames := by
  unfold candidateNames
  split
  · split <;> simp
  · simp

namespace Inference

variable {registrations : List Registration} {allowGet : Bool} {consumer : Consumer} {slot : Slot}
  {name : String} {dictionary : Dictionary} {ofEndpoint : Option Dictionary}

/-! ## Each rule -/

/-- The methods of requests that produce are the creating ones, and that for reading if allowed. -/
theorem mem_methods_iff {inference : Inference} {method : Method} :
    method ∈ inference.methods ↔
      method = .post ∨ method = .put ∨ inference.allowGet = true ∧ method = .get := by
  unfold methods
  split
  · rename_i allowed
    simp [allowed]
  · rename_i refused
    simp [refused]

/-- A slot may supply a path parameter from the endpoint before it when it is found there for one of
the names to look for. -/
theorem exists_mem_atSimilarEndpoint_iff :
    (∃ name ∈ consumer.candidateNames,
      slot ∈ (ofRegistrations registrations allowGet).atSimilarEndpoint consumer name) ↔
        slot.BeforeParameter registrations allowGet consumer := by
  simp only [mem_atSimilarEndpoint_iff, mem_methods_iff, ofRegistrations,
    Catalog.mem_matching_iff]
  constructor
  · rintro ⟨name, listed, endpoint, cut, placed, ⟨registered, alike⟩, method, supplies⟩
    exact ⟨registered, supplies, method, ⟨name, listed, alike⟩, endpoint, cut, placed⟩
  · rintro ⟨registered, supplies, method, ⟨name, listed, alike⟩, endpoint, cut, placed⟩
    exact ⟨name, listed, endpoint, cut, placed, ⟨registered, alike⟩, method, supplies⟩

/-- A slot at the endpoint before the parameter is at a similar one. -/
theorem mem_atSimilarEndpoint_of_before
    (member : slot ∈ (ofRegistrations registrations allowGet).atEndpointBefore consumer name) :
    slot ∈ (ofRegistrations registrations allowGet).atSimilarEndpoint consumer name := by
  obtain ⟨endpoint, cut, listed⟩ := mem_atEndpointBefore_iff.mp member
  obtain ⟨found, supplies⟩ := List.mem_filter.mp listed
  obtain ⟨registered, rfl, rfl, method⟩ := Catalog.mem_atEndpoint_iff.mp found
  exact mem_atSimilarEndpoint_iff.mpr
    ⟨_, cut, rfl, Catalog.mem_matching_iff.mpr ⟨registered, rfl⟩, method, supplies⟩

/-- The slots at the endpoint through the parameter. -/
theorem mem_valid_atEndpoint_put {endpoint candidate : String} :
    slot ∈ (ofRegistrations registrations allowGet).valid consumer
        ((ofRegistrations registrations allowGet).catalog.atEndpoint candidate endpoint [.put]) ↔
      .response slot ∈ registrations ∧ slot.name = candidate ∧ slot.request.endpoint = endpoint ∧
        slot.request.method = .put ∧ isValidProducer allowGet slot consumer = true := by
  rw [valid, List.mem_filter, ofRegistrations, Catalog.mem_atEndpoint_iff, List.mem_singleton,
    and_assoc, and_assoc, and_assoc]

/-- A slot found at the endpoint through the parameter may supply it from there. -/
theorem through_of_created? (listed : name ∈ consumer.candidateNames)
    (found : (ofRegistrations registrations allowGet).created? consumer name = some slot) :
    slot.ThroughParameter registrations allowGet consumer := by
  obtain ⟨endpoint, cut, candidate, tried, placed⟩ := exists_of_created? found
  obtain ⟨registered, rfl, rfl, method, supplies⟩ := mem_valid_atEndpoint_put.mp placed
  refine ⟨registered, supplies, method, ?_, cut⟩
  simp only [List.mem_cons, List.not_mem_nil, or_false] at tried
  rcases tried with rfl | usual
  · exact .inl listed
  · exact .inr usual

/-- If a slot may supply a path parameter from the endpoint through it, one is found there for some
of the names to look for. -/
theorem exists_created?_isSome
    (through : slot.ThroughParameter registrations allowGet consumer) :
    ∃ name ∈ consumer.candidateNames,
      ((ofRegistrations registrations allowGet).created? consumer name).isSome := by
  have found : ∀ name, slot.name ∈ [name, "id", "name"] →
      ((ofRegistrations registrations allowGet).created? consumer name).isSome := by
    intro name tried
    unfold created?
    rw [through.placed, Option.bind_eq_bind, Option.bind_some, List.findSome?_isSome_iff]
    refine ⟨slot.name, List.mem_eraseDups.mpr tried, ?_⟩
    have member := mem_valid_atEndpoint_put.mpr
      ⟨through.registered, rfl, rfl, through.method, through.valid⟩
    exact List.isSome_minOn?_of_mem member
  rcases through.named with listed | usual
  · exact ⟨slot.name, listed, found slot.name (.head _)⟩
  · -- The usual names are tried along with any name; the parameter's own is always one of them.
    refine ⟨consumer.slot.name, consumer.name_mem_candidateNames, found _ ?_⟩
    simpa using Or.inr usual

/-! ## All rules -/

/-- The slot for a path parameter by a name, where no unique name is made. -/
def pathSlot? (inference : Inference) (consumer : Consumer) (name : String) : Option Slot :=
  (inference.atEndpointBefore consumer name).head?.or <|
    (inference.created? consumer name).or (inference.atSimilarEndpoint consumer name).head?

/-- Where no unique name is made, a path parameter is answered by the rules for slots. -/
theorem namedProducer?_of_foreign {inference : Inference} (path : consumer.kind = .path)
    (foreign : createsOwnResource consumer = false) :
    inference.namedProducer? consumer dictionary name =
      (inference.pathSlot? consumer name).map (.response ·, dictionary) := by
  simp only [namedProducer?, path, pathProducer?, pathSlot?]
  cases (inference.atEndpointBefore consumer name).head? with
  | some slot => rfl
  | none => simp only [foreign, Bool.false_eq_true, if_false, Option.none_or]

/-- The rules for slots find such slots only that may supply the parameter. -/
theorem supplies_of_pathSlot? (listed : name ∈ consumer.candidateNames)
    (found : (ofRegistrations registrations allowGet).pathSlot? consumer name = some slot) :
    slot.BeforeParameter registrations allowGet consumer ∨
      slot.ThroughParameter registrations allowGet consumer := by
  rw [pathSlot?, Option.or_eq_some_iff, Option.or_eq_some_iff] at found
  rcases found with before | ⟨_, created | ⟨_, similar⟩⟩
  · have member := mem_atSimilarEndpoint_of_before (List.mem_of_head? before)
    exact .inl (exists_mem_atSimilarEndpoint_iff.mp ⟨name, listed, member⟩)
  · exact .inr (through_of_created? listed created)
  · exact .inl (exists_mem_atSimilarEndpoint_iff.mp ⟨name, listed, List.mem_of_head? similar⟩)

/-- The rules for slots find nothing for any name exactly when no slot may supply the parameter. -/
theorem pathSlot?_eq_none_iff :
    (∀ name ∈ consumer.candidateNames,
      (ofRegistrations registrations allowGet).pathSlot? consumer name = none) ↔
        ∀ slot : Slot, ¬slot.BeforeParameter registrations allowGet consumer ∧
          ¬slot.ThroughParameter registrations allowGet consumer := by
  constructor
  · intro nothing slot
    have none_of : ∀ name ∈ consumer.candidateNames,
        (ofRegistrations registrations allowGet).created? consumer name = none ∧
          (ofRegistrations registrations allowGet).atSimilarEndpoint consumer name = [] := by
      intro name listed
      have missing := nothing name listed
      rw [pathSlot?, Option.or_eq_none_iff, Option.or_eq_none_iff, List.head?_eq_none_iff,
        List.head?_eq_none_iff] at missing
      exact missing.2
    constructor
    · intro before
      obtain ⟨name, listed, member⟩ := exists_mem_atSimilarEndpoint_iff.mpr before
      rw [(none_of name listed).2] at member
      exact absurd member List.not_mem_nil
    · intro through
      obtain ⟨name, listed, found⟩ := exists_created?_isSome through
      rw [(none_of name listed).1] at found
      cases found
  · intro unsupplied name listed
    cases found : (ofRegistrations registrations allowGet).pathSlot? consumer name with
    | none => rfl
    | some slot =>
      obtain ⟨notBefore, notThrough⟩ := unsupplied slot
      exact absurd (supplies_of_pathSlot? listed found) (not_or.mpr ⟨notBefore, notThrough⟩)

/-- A path parameter whose request creates its resource, and that neither a link nor a dictionary
supplies, is answered by a slot that may supply it from the endpoint before it, or gets a unique
name. -/
theorem find_of_creator (path : consumer.kind = .path)
    (unlinked : (ofRegistrations registrations allowGet).linkedProducer? consumer = none)
    (missing : dictionaryEntry? consumer ofEndpoint dictionary = none)
    (creates : createsOwnResource consumer = true) :
    (∃ slot : Slot, slot.BeforeParameter registrations allowGet consumer ∧
      (ofRegistrations registrations allowGet).find consumer dictionary ofEndpoint =
        (some (.response slot), dictionary)) ∨
      (ofRegistrations registrations allowGet).find consumer dictionary ofEndpoint =
        (some (.dictionary (.uniqueName consumer.slot.name)),
          (dictionary.register (.uniqueName consumer.slot.name)).1) := by
  cases listed : consumer.candidateNames with
  | nil =>
    have member := consumer.name_mem_candidateNames
    rw [listed] at member
    exact absurd member List.not_mem_nil
  | cons name others =>
    cases before : (ofRegistrations registrations allowGet).atEndpointBefore consumer name with
    | nil =>
      -- A unique name is made before any other name or rule is tried.
      have minted : (ofRegistrations registrations allowGet).mints consumer dictionary
          ofEndpoint = true := by
        simp [mints, unlinked, missing, path, creates, listed, before]
      exact .inr (find_of_mints minted).2.2
    | cons slot rest =>
      have member : slot ∈
          (ofRegistrations registrations allowGet).atEndpointBefore consumer name := by
        rw [before]
        exact .head _
      have here : (ofRegistrations registrations allowGet).namedProducer? consumer dictionary
          name = some (.response slot, dictionary) := by
        simp only [namedProducer?, path, pathProducer?, before, List.head?_cons]
      refine .inl ⟨slot, exists_mem_atSimilarEndpoint_iff.mp ⟨name, ?_, ?_⟩, ?_⟩
      · rw [listed]
        exact .head _
      · exact mem_atSimilarEndpoint_of_before member
      · rw [find_of_names unlinked missing, listed, List.findSome?_cons, here]
        rfl

/-- A path parameter whose request does not create its resource, and that neither a link nor a
dictionary supplies, is answered by the rules for slots. -/
theorem find_of_foreign {inference : Inference} (path : consumer.kind = .path)
    (unlinked : inference.linkedProducer? consumer = none)
    (missing : dictionaryEntry? consumer ofEndpoint dictionary = none)
    (foreign : createsOwnResource consumer = false) :
    inference.find consumer dictionary ofEndpoint =
      ((consumer.candidateNames.findSome? (inference.pathSlot? consumer)).map .response,
        dictionary) := by
  have named : inference.namedProducer? consumer dictionary = fun name =>
      (inference.pathSlot? consumer name).map (.response ·, dictionary) :=
    funext fun name => namedProducer?_of_foreign path foreign
  have mapped := List.map_findSome? (f := inference.pathSlot? consumer)
    (g := fun slot => (Producer.response slot, dictionary)) (l := consumer.candidateNames)
  rw [find_of_names unlinked missing, named, ← Function.comp_def, ← mapped]
  cases consumer.candidateNames.findSome? (inference.pathSlot? consumer) <;> rfl

/-- What becomes of a path parameter that neither a link nor a dictionary supplies. If its request
is the one that creates its resource, it is answered by a slot that may supply it from the endpoint
before it, or it gets a unique name. Otherwise it is answered by a slot that may supply it from the
endpoint before it or from the one through it, and by nothing exactly where no such slot was
registered; the dictionary stays as it is. -/
theorem find_path_parameter (registrations : List Registration) (allowGet : Bool)
    (consumer : Consumer) (dictionary : Dictionary) (ofEndpoint : Option Dictionary)
    (path : consumer.kind = .path)
    (unlinked : (ofRegistrations registrations allowGet).linkedProducer? consumer = none)
    (missing : dictionaryEntry? consumer ofEndpoint dictionary = none) :
    let answer := (ofRegistrations registrations allowGet).find consumer dictionary ofEndpoint
    (consumer.slot.request.method = .put ∧
        Endpoint.endsWithParameter consumer.slot.name consumer.slot.request.endpoint = true →
      (∃ slot : Slot, slot.BeforeParameter registrations allowGet consumer ∧
        answer = (some (.response slot), dictionary)) ∨
        answer = (some (.dictionary (.uniqueName consumer.slot.name)),
          (dictionary.register (.uniqueName consumer.slot.name)).1)) ∧
    (¬(consumer.slot.request.method = .put ∧
        Endpoint.endsWithParameter consumer.slot.name consumer.slot.request.endpoint = true) →
      answer.2 = dictionary ∧
      (∀ producer, answer.1 = some producer → ∃ slot, producer = .response slot ∧
        (slot.BeforeParameter registrations allowGet consumer ∨
          slot.ThroughParameter registrations allowGet consumer)) ∧
      (answer.1 = none ↔ ∀ slot : Slot,
        ¬slot.BeforeParameter registrations allowGet consumer ∧
          ¬slot.ThroughParameter registrations allowGet consumer)) := by
  have creates_iff : consumer.slot.request.method = .put ∧
      Endpoint.endsWithParameter consumer.slot.name consumer.slot.request.endpoint = true ↔
        createsOwnResource consumer = true := by
    rw [createsOwnResource, Bool.and_eq_true, beq_iff_eq]
  rw [creates_iff]
  intro answer
  refine ⟨fun creates => find_of_creator path unlinked missing creates, fun foreign => ?_⟩
  have answered : answer = _ :=
    find_of_foreign path unlinked missing (Bool.eq_false_iff.mpr foreign)
  simp only [answered]
  refine ⟨trivial, fun producer found => ?_, ?_⟩
  · obtain ⟨slot, sought, rfl⟩ := Option.map_eq_some_iff.mp found
    obtain ⟨name, listed, here⟩ := List.exists_of_findSome?_eq_some sought
    exact ⟨slot, rfl, supplies_of_pathSlot? listed here⟩
  · rw [Option.map_eq_none_iff, List.findSome?_eq_none_iff, pathSlot?_eq_none_iff]

/-- The slots of three requests: at a similar endpoint, at a different one, and at the endpoint of a
request that creates a single post. -/
def postRegistrations : List Registration :=
  [.response ⟨⟨"/blog/\x7bblog\x7d/posts", .post⟩, "post_id", .body ⟨["post_id"]⟩, none, .string⟩,
    .response ⟨⟨"/archive/posts", .post⟩, "postId", .body ⟨["postId"]⟩, none, .string⟩,
    .response ⟨⟨"/blog/\x7bid\x7d/posts/\x7bpostId\x7d", .put⟩, "name", .body ⟨["name"]⟩, none,
      .string⟩]

/-- The parameter that names a single post to be read. -/
def postParameter : Consumer :=
  .plain (.ofPathParameter ⟨"/blog/\x7bid\x7d/posts/\x7bpostId\x7d", .get⟩ "postId" .string none)
    .path

/-- The parameter of `postParameter` is answered by a slot that may supply it. -/
theorem postParameter_find :
    postParameter.kind = .path ∧
    (ofRegistrations postRegistrations false).linkedProducer? postParameter = none ∧
    dictionaryEntry? postParameter none .empty = none ∧
    ∃ slot : Slot, ((ofRegistrations postRegistrations false).find postParameter .empty none) =
        (some (.response slot), .empty) ∧
      (slot.BeforeParameter postRegistrations false postParameter ∨
        slot.ThroughParameter postRegistrations false postParameter) := by
  have missing : dictionaryEntry? postParameter none .empty = none := by decide +kernel
  have foreign : ¬(postParameter.slot.request.method = .put ∧
      Endpoint.endsWithParameter postParameter.slot.name postParameter.slot.request.endpoint =
        true) := by decide
  obtain ⟨_, answered⟩ := find_path_parameter postRegistrations false postParameter .empty none rfl
    rfl missing
  obtain ⟨kept, chosen, _⟩ := answered foreign
  have found : (((ofRegistrations postRegistrations false).find postParameter .empty none).1).isSome
      = true := by decide +kernel
  obtain ⟨producer, there⟩ := Option.isSome_iff_exists.mp found
  obtain ⟨slot, rfl, supplies⟩ := chosen producer there
  exact ⟨rfl, rfl, missing, slot, Prod.ext there kept, supplies⟩

end Inference

end ApiWiring
