import ApiWiring.Proofs.Wiring.Overrides
import ApiWiring.Proofs.Wiring.Producers

/-!
# What the second pass revises

The second pass works through pairs that were made from the wiring of the first, but it puts them
into a wiring that it changes as it goes, and it may take a dictionary entry from a consumer. Still,
key by key, it does only two things: an `id` property without producer is supplied by a `name`
property of its body, and that `name` property gets its unique name, in place of a dictionary entry
if it had one. Everything else is as the first pass left it.
-/
namespace ApiWiring.Passes

variable {setting : Setting} {surveys : List Survey} {final : Wiring} {key : ConsumerKey}
  {before after : Option Producer} {result : Result}

/-- What the second pass may make of the producer of a key, given the wiring after it. -/
inductive Revision (setting : Setting) (final : Wiring) (key : ConsumerKey) :
    Option Producer → Option Producer → Prop where
  /-- It stays. -/
  | kept (producer? : Option Producer) : Revision setting final key producer? producer?
  /-- An `id` property without producer is supplied by a `name` property that one of the requests
  of its identity sends. -/
  | identified (kind : key.kind = .body) (called : key.name = "id") (slot : Slot)
    (names : slot.name = "name") (owner : slot.request = key.request)
    (sent : ∃ request ∈ setting.requests, request.Sends setting.options slot) :
    Revision setting final key none (some (.sibling slot))
  /-- A `name` property without producer or with a dictionary entry gets the unique name made of its
  container, and some `id` property of a request of its identity is supplied by it. -/
  | named (before : Option Producer)
    (yields : ∀ producer, before = some producer → producer.isDictionary = true)
    (kind : key.kind = .body) (called : key.name = "name") (slot : Slot)
    (own : (Consumer.plain slot .body).key = key) (container : String)
    (around : slot.containerName? = some container) (entry : CustomPayload)
    (unique : entry.section_ = .uuidSuffix)
    (spelled : Text.EqualIgnoringCase entry.name (container ++ "_name"))
    (identity : ConsumerKey) (identityKind : identity.kind = .body)
    (identifies : identity.name = "id") (together : identity.request = key.request)
    (supplied : final.producerAt? identity = some (.sibling slot)) :
    Revision setting final key before (some (.dictionary entry))

/-- A producer that is no dictionary entry stays. -/
theorem Revision.eq_of_settled (revision : Revision setting final key before after)
    {producer : Producer} (had : before = some producer) (settled : producer.isDictionary = false) :
    after = some producer := by
  cases revision with
  | kept => exact had
  | identified => cases had
  | named _ yields =>
    rw [yields producer had] at settled
    cases settled

/-- What has a producer keeps having one. -/
theorem Revision.isSome (revision : Revision setting final key before after)
    (had : before.isSome) : after.isSome := by
  cases revision with
  | kept => exact had
  | identified => rfl
  | named => rfl

/-- The second pass revises the producer of every key. -/
theorem revision_of_second (surveyed : Passes.surveys setting = .ok surveys) {wired : Wired}
    {progress : Progress} (done : second (inference setting surveys) surveys wired = .ok progress)
    (key : ConsumerKey) :
    Revision setting progress.wired.wiring key (wired.wiring.producerAt? key)
      (progress.wired.wiring.producerAt? key) := by
  by_cases paired : ∃ raw ∈ pairs setting surveys wired.wiring, raw.consumer.key = key
  · obtain ⟨raw, listed, rfl⟩ := paired
    obtain ⟨survey, inSurveys, consumer, inside, made⟩ := mem_pairs.mp listed
    obtain ⟨slot, container, sought, around, spoken, pair⟩ := pair_of_mem_siblingConnections made
    obtain ⟨sibling, sent⟩ := isSiblingOf_of_sibling? surveyed sought
    -- Whichever of the two comes up, the other one is among the pairs too.
    have identity : ⟨consumer, some (.sibling slot)⟩ ∈ pairs setting surveys wired.wiring :=
      mem_pairs.mpr ⟨survey, inSurveys, consumer, inside, by rw [pair]; exact .head _⟩
    have supplied := producerAt?_of_second surveyed done identity rfl
    rcases spoken with rfl | rfl
    · rw [unsupplied_of_mem_siblingConnections made, supplied]
      exact .identified sibling.kind sibling.identifies slot sibling.names sibling.request sent
    · have naming : ⟨.plain slot .body, some (.dictionary (siblingEntry container slot))⟩ ∈
          pairs setting surveys wired.wiring := listed
      obtain ⟨_, _, called, inBody⟩ := sibling_of_sibling? surveyed sought
      obtain ⟨stored, found, settled⟩ :=
        settled_of_second surveyed done inBody called around naming
      have name : (siblingEntry container slot).name = container ++ "_name" := by
        rw [siblingEntry, called]
        exact String.append_assoc
      have spelled := (Dictionary.mem_keys_of_key? found).2
      rw [name] at spelled
      rw [settled]
      exact .named _ (fun producer had => (yields_of_mem_siblingConnections made had).1) rfl called
        slot rfl container around _ rfl spelled consumer.key sibling.kind sibling.identifies
        sibling.request.symm supplied
  · rw [producerAt?_of_apart done fun raw listed same => paired ⟨raw, listed, same⟩]
    exact .kept _

/-- The finished wiring knows the consumers that the first pass left, and key by key the second pass
revised the producer at most. In particular the response producers of the first pass stay, and what
had a producer has one. -/
theorem revision_of_run (ran : run setting = .ok result) :
    ∃ surveys early, Passes.surveys setting = .ok surveys ∧ first setting surveys = .ok early ∧
      ∀ key, (result.wired.wiring.Knows key ↔ early.wiring.Knows key) ∧
        Revision setting result.wired.wiring key (early.wiring.producerAt? key)
          (result.wired.wiring.producerAt? key) ∧
        (∀ slot, early.wiring.producerAt? key = some (.response slot) →
          result.wired.wiring.producerAt? key = some (.response slot)) ∧
        ((early.wiring.producerAt? key).isSome → (result.wired.wiring.producerAt? key).isSome) := by
  obtain ⟨surveys, early, progress, surveyed, started, finished, built, _⟩ := run_eq_ok ran
  rw [built]
  refine ⟨surveys, early, surveyed, started, fun key => ?_⟩
  have revision := revision_of_second surveyed finished key
  exact ⟨knows_of_second_iff surveyed started finished, revision,
    fun slot had => revision.eq_of_settled had rfl, revision.isSome⟩

/-! ## One name for two identities -/

/-- The request of `sharedSetting`. -/
def sharedRequest : RequestId := ⟨"/c", .post⟩

/-- A property of the body of `sharedSetting`. -/
def sharedSlot (name : String) (path : List String) : Slot :=
  ⟨sharedRequest, name, .body ⟨path⟩, none, .string⟩

/-- The inner identity of `sharedSetting`. -/
def sharedIdentity : Consumer := .plain (sharedSlot "id" ["t", "u", "t", "id"]) .body

/-- The name of `sharedSetting`. -/
def sharedName : Consumer := .plain (sharedSlot "name" ["t", "name"]) .body

/-- A request, made twice, whose body has a resource with a name and two resources of its type with
an identity each inside it; the dictionary has a value for the name, and another spelling of the
unique name. -/
def sharedSetting : Setting where
  requests := .replicate 2
    { id := sharedRequest
      pathParameters := []
      queryParameters := .empty
      bodyParameters := ⟨[⟨"b", .inner ⟨"", none, .object, true, false⟩
        [.inner ⟨"t", none, .object, true, false⟩
          [.leaf (.plain "name" (.ofType .string)),
            .inner ⟨"t", none, .object, true, false⟩ [.leaf (.plain "id" (.ofType .string))],
            .inner ⟨"u", none, .object, true, false⟩
              [.inner ⟨"t", none, .object, true, false⟩
                [.leaf (.plain "id" (.ofType .string))]]]]⟩], none⟩
      response := none
      links := [] }
  everywhere := []
  dictionary := { Dictionary.empty with
    custom := .ofList [("name", ["x"])], uuidSuffix := .ofList [("T_NAME", "n")] }
  ofEndpoint := .empty
  options := .standard

/-- In `sharedSetting` the name had its value from the dictionary after the first pass and gets a
unique name, spelled as in the dictionary, while an identity without producer is supplied by it. -/
theorem sharedSetting_revision :
    ∃ result surveys early, run sharedSetting = .ok result ∧
      first sharedSetting surveys = .ok early ∧
        early.wiring.producerAt? sharedName.key =
          some (.dictionary ⟨.string, .string, "name", false⟩) ∧
        Revision sharedSetting result.wired.wiring sharedName.key
          (some (.dictionary ⟨.string, .string, "name", false⟩))
          (some (.dictionary (.uniqueName "T_NAME"))) ∧
        Revision sharedSetting result.wired.wiring sharedIdentity.key none
          (some (.sibling sharedName.slot)) := by
  have finished : (run sharedSetting).toOption.map (fun result =>
      (result.wired.wiring.producerAt? sharedName.key,
        result.wired.wiring.producerAt? sharedIdentity.key)) =
      some (some (.dictionary (.uniqueName "T_NAME")), some (.sibling sharedName.slot)) := by
    decide +kernel
  have begun : ((surveys sharedSetting).toOption.bind fun surveys =>
      (first sharedSetting surveys).toOption.map fun early =>
        (early.wiring.producerAt? sharedName.key, early.wiring.producerAt? sharedIdentity.key)) =
      some (some (.dictionary ⟨.string, .string, "name", false⟩), none) := by
    decide +kernel
  obtain ⟨result, made, last⟩ := Option.map_eq_some_iff.mp finished
  obtain ⟨lastName, lastIdentity⟩ := Prod.mk.inj last
  have ran := Outcome.ok_of_toOption made
  obtain ⟨surveys, early, surveyed, started, revised⟩ := revision_of_run ran
  have firsts : (early.wiring.producerAt? sharedName.key,
      early.wiring.producerAt? sharedIdentity.key) =
        (some (.dictionary ⟨.string, .string, "name", false⟩), none) := by
    rw [surveyed] at begun
    simpa [Except.toOption, started] using begun
  obtain ⟨firstName, firstIdentity⟩ := Prod.mk.inj firsts
  have name := (revised sharedName.key).2.1
  have identity := (revised sharedIdentity.key).2.1
  rw [firstName, lastName] at name
  rw [firstIdentity, lastIdentity] at identity
  exact ⟨result, surveys, early, ran, started, firstName, name, identity⟩

end ApiWiring.Passes
