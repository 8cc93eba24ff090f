import ApiWiring.Proofs.Wiring.Keys
import ApiWiring.Proofs.Wiring.Pairs
import ApiWiring.Proofs.Wiring.Places

/-!
# What users ask for

A link that a user asks for and an entry that a user has put into a dictionary go before everything
that is inferred, and this stays so through both passes. What the first pass settles for a consumer
nothing in it unsettles; the second pass leaves response producers alone and takes a dictionary
entry from no consumer but a `name` property that supplies an `id` property of its body.
-/
namespace ApiWiring

/-- The link that counts for a slot is the first one that applies to it. -/
theorem Link.fst_find? (atRequest everywhere : List Link) (slot : Slot) :
    (Link.find? atRequest everywhere slot).1 =
      (atRequest ++ everywhere).find? (·.appliesTo slot) := by
  rw [Link.find?, Link.applying, Representatives.head?_eraseDupsBy, List.head?_filter]

/-- The pointer of a path that ends in a name has a slash. -/
theorem AccessPath.slash_mem_pointer {path : AccessPath} {name : String}
    (named : path.EndsIn name) : '/' ∈ path.pointer.toList := by
  rw [pointer, Text.toList_joinSegments, Text.slashed, List.mem_flatMap]
  exact ⟨name, List.mem_of_getLast? named.1, .head _⟩

namespace Survey

variable {options : Options} {everywhere : List Link} {request : Request} {survey : Survey}
  {consumer : Consumer}

/-- The link of a consumer is the first of those written at its request and those that hold
everywhere that applies to it. -/
theorem link_of_mem_consumers (done : ofRequest options everywhere request = .ok survey)
    (member : consumer ∈ survey.consumers) :
    consumer.link = (linksAt request ++ everywhere).find? (·.appliesTo consumer.slot) := by
  obtain ⟨_, _, _, pathSlots, _, listed⟩ := ofRequest_eq_ok done
  rw [listed] at member
  obtain ⟨⟨slot, kind⟩, _, rfl⟩ := List.mem_map.mp member
  exact Link.fst_find? _ _ _

/-- The pointer of a consumer in a query parameter or a body has a slash. -/
theorem slash_mem_pointer (done : ofRequest options everywhere request = .ok survey)
    (member : consumer ∈ survey.consumers) (inTree : consumer.kind ≠ .path) :
    '/' ∈ consumer.slot.accessPath.pointer.toList := by
  have needed := (exists_consumer_iff done).mp ⟨consumer, member, rfl⟩
  exact AccessPath.slash_mem_pointer (needed.endsIn inTree)

end Survey

namespace Passes

variable {setting : Setting} {surveys : List Survey} {survey : Survey} {consumer : Consumer}
  {key : ConsumerKey} {slot : Slot} {result : Result}

/-! ## The first pass -/

/-- What inference found for a consumer the first pass has given to it, in some spelling. -/
theorem producerAt?_of_first {wired : Wired} (done : first setting surveys = .ok wired)
    (listed : survey ∈ surveys) {raw : Connection}
    (member : raw ∈ (inferRequest setting (inference setting surveys) survey).1)
    (given : raw.producer?.isSome) :
    ∃ merged producer, (raw.respelled merged).producer? = some producer ∧
      wired.wiring.producerAt? raw.consumer.key = some producer := by
  refine Outcome.foldlM_settles (fun state : Wired => ∃ merged producer,
    (raw.respelled merged).producer? = some producer ∧
      state.wiring.producerAt? raw.consumer.key = some producer)
    (List.mem_map_of_mem listed) ?_ ?_ done
  · intro state next stepped
    obtain ⟨wiring, connected, built⟩ := Outcome.bind_eq_ok_iff.mp stepped
    cases built
    rw [← Connection.isSome_producer?_respelled raw (state.dictionary.mergeMissing _).1] at given
    obtain ⟨producer, respelled⟩ := Option.isSome_iff_exists.mp given
    refine ⟨_, producer, respelled, ?_⟩
    exact (producerAt?_of_connectAll_iff connected).mpr (.inr ⟨raw, member, rfl, respelled⟩)
  · rintro state other next _ ⟨merged, producer, respelled, kept⟩ stepped
    obtain ⟨wiring, connected, built⟩ := Outcome.bind_eq_ok_iff.mp stepped
    cases built
    refine ⟨merged, producer, respelled, ?_⟩
    exact (producerAt?_of_connectAll_iff connected).mpr (.inl kept)

/-- Every consumer surveyed has a connection with what inference found for it, from a dictionary
that grew out of the starting one by names only. -/
theorem exists_found (surveyed : Passes.surveys setting = .ok surveys) (listed : survey ∈ surveys)
    (member : consumer ∈ survey.consumers) :
    ∃ raw ∈ (inferRequest setting (inference setting surveys) survey).1, ∃ before,
      raw.consumer = consumer ∧ before.GrewByNames setting.dictionary ∧
        raw.producer? = ((inference setting surveys).find consumer before
          (setting.ofEndpoint.get? survey.request.endpoint)).1 := by
  have apart := apart_of_mem_surveys surveyed listed
  have answered := consumers_inferAll (inference setting surveys)
    (setting.ofEndpoint.get? survey.request.endpoint) setting.dictionary survey.consumers
  rw [← answered] at member
  obtain ⟨raw, inside, rfl⟩ := List.mem_map.mp member
  obtain ⟨_, before, grew, found⟩ := find_of_mem_inferAll (·.GrewByNames setting.dictionary)
    (fun other asked before grew => Inference.grewByNames_of_find (apart other asked) grew)
    ⟨.refl _, rfl, fun _ _ held => held⟩ inside
  exact ⟨raw, inside, before, rfl, grew, found⟩

/-- A response slot that a consumer's link asks for supplies it after the first pass. -/
theorem linked_of_first (surveyed : Passes.surveys setting = .ok surveys) {wired : Wired}
    (started : first setting surveys = .ok wired) (listed : survey ∈ surveys)
    (member : consumer ∈ survey.consumers)
    (linked : (inference setting surveys).linkedProducer? consumer = some slot) :
    wired.wiring.producerAt? consumer.key = some (.response slot) := by
  obtain ⟨raw, inside, before, rfl, _, found⟩ := exists_found surveyed listed member
  rw [Inference.find, linked] at found
  obtain ⟨merged, producer, respelled, there⟩ := producerAt?_of_first started listed inside
    (Option.isSome_of_eq_some found)
  rw [Connection.producer?_respelled_of_other found rfl] at respelled
  rwa [← respelled] at there

/-- Where no link supplies a consumer, the entry at its first place does after the first pass. -/
theorem stocked_of_first (surveyed : Passes.surveys setting = .ok surveys) {wired : Wired}
    (started : first setting surveys = .ok wired) (listed : survey ∈ surveys)
    (member : consumer ∈ survey.consumers)
    (unlinked : (inference setting surveys).linkedProducer? consumer = none) {place : Place}
    (first : place.IsFirst (setting.ofEndpoint.get? survey.request.endpoint) setting.dictionary
      consumer) :
    ∃ entry, wired.wiring.producerAt? consumer.key = some (.dictionary entry) ∧
      place.Gives consumer entry := by
  obtain ⟨request, _, done⟩ := request_of_mem_surveys surveyed listed
  obtain ⟨raw, inside, before, rfl, grew, found⟩ := exists_found surveyed listed member
  obtain ⟨entry, stocked, gives⟩ :=
    (first.of_grewByNames grew (Survey.slash_mem_pointer done member)).entry
  have given : raw.producer? = some (.dictionary entry) := by
    rw [found, Inference.find, unlinked]
    simp only [Inference.inferred?, stocked]
  obtain ⟨merged, producer, respelled, there⟩ := producerAt?_of_first started listed inside
    (Option.isSome_of_eq_some given)
  rw [Connection.producer?_respelled_of_dictionary given] at respelled
  cases respelled
  have spelled := CustomPayload.name_respelled entry merged
  exact ⟨_, there, gives.section_, spelled.trans gives.name, gives.type, gives.isObject⟩

/-! ## The second pass -/

/-- Whether the value of a key supplies another one of its body. -/
def Supplies (wiring : Wiring) (key : ConsumerKey) : Prop :=
  ∃ connection ∈ wiring.connections, ∃ slot, connection.producer? = some (.sibling slot) ∧
    (Consumer.plain slot .body).key = key

/-- After the second pass a value supplies another one of its body when a pair gives it a unique
name. -/
theorem supplies_iff (surveyed : Passes.surveys setting = .ok surveys) {wired : Wired}
    (started : first setting surveys = .ok wired) {progress : Progress}
    (done : second (inference setting surveys) surveys wired = .ok progress) :
    Supplies progress.wired.wiring key ↔ ∃ raw ∈ pairs setting surveys wired.wiring,
      raw.consumer.key = key ∧ raw.bySibling = false := by
  constructor
  · rintro ⟨connection, member, slot, given, rfl⟩
    have origins := origin_of_second (origin_of_first _ started).2 done
    obtain ⟨_, container, _, paired⟩ := (origins.2 connection member).partner surveyed given
    exact ⟨_, paired, rfl, rfl⟩
  · rintro ⟨raw, paired, rfl, other⟩
    obtain ⟨survey, listed, consumer, inside, made⟩ := mem_pairs.mp paired
    obtain ⟨slot, container, _, _, rfl | rfl, pair⟩ := pair_of_mem_siblingConnections made
    · cases other
    · have identity : ⟨consumer, some (.sibling slot)⟩ ∈ pairs setting surveys wired.wiring := by
        refine mem_pairs.mpr ⟨survey, listed, consumer, inside, ?_⟩
        rw [pair]
        exact .head _
      have settled := producerAt?_of_second surveyed done identity rfl
      obtain ⟨connection, found, given⟩ := Option.bind_eq_some_iff.mp settled
      exact ⟨connection, Wiring.mem_connections_of_get? found, slot, given, rfl⟩

/-- The second pass leaves the producers of the first, unless a dictionary entry belongs to a value
that supplies another one of its body. -/
theorem producerAt?_of_not_supplies (surveyed : Passes.surveys setting = .ok surveys)
    {wired : Wired} (started : first setting surveys = .ok wired) {progress : Progress}
    (done : second (inference setting surveys) surveys wired = .ok progress) {producer : Producer}
    (had : wired.wiring.producerAt? key = some producer)
    (apart : producer.isDictionary = true → ¬Supplies progress.wired.wiring key) :
    progress.wired.wiring.producerAt? key = some producer := by
  rw [producerAt?_of_apart done, had]
  rintro raw paired rfl
  obtain ⟨_, _, _, _, made⟩ := mem_pairs.mp paired
  obtain ⟨entry, other⟩ := yields_of_mem_siblingConnections made had
  exact apart entry ((supplies_iff surveyed started done).mpr ⟨raw, paired, rfl, other⟩)

/-- A value that supplies another one of its body is called `name`, has a named property around, and
is itself supplied by the unique name made of the two. -/
theorem named_of_supplies (surveyed : Passes.surveys setting = .ok surveys)
    (ran : run setting = .ok result) (listed : survey ∈ surveys)
    (member : consumer ∈ survey.consumers)
    (supplies : Supplies result.wired.wiring consumer.key) :
    consumer.kind = .body ∧ consumer.slot.name = "name" ∧ ∃ container entry,
      consumer.slot.containerName? = some container ∧
        result.wired.wiring.producerAt? consumer.key = some (.dictionary entry) ∧
          entry.section_ = .uuidSuffix ∧
            Text.EqualIgnoringCase entry.name (container ++ "_" ++ consumer.slot.name) := by
  obtain ⟨connection, there, slot, given, same⟩ := supplies
  obtain ⟨_, _, container, stored, named, found, settled⟩ := sibling_of_run ran there given
  obtain ⟨others, wired, progress, alike, started, finished, built, _⟩ := run_eq_ok ran
  obtain rfl : surveys = others := Except.ok.inj (surveyed.symm.trans alike)
  rw [built] at there
  have origins := origin_of_second (origin_of_first _ started).2 finished
  obtain ⟨sought, _⟩ := (origins.2 connection there).partner surveyed given
  obtain ⟨_, _, called, slotBody⟩ := sibling_of_sibling? surveyed sought
  have kind : consumer.kind = .body := (congrArg ConsumerKey.kind same).symm
  have owner : slot.request = consumer.slot.request := congrArg ConsumerKey.request same
  have name : slot.name = consumer.slot.name := congrArg ConsumerKey.name same
  have body := inBody_of_mem_consumers surveyed ⟨survey, listed, member⟩ kind
  have alike := slotBody.untyped_eq body owner (congrArg ConsumerKey.path same)
  have blind : Slot.TypeBlind Slot.containerName? := fun _ => rfl
  have around := blind.congr alike
  rw [same] at settled
  refine ⟨kind, name.symm.trans called, container, _, around.symm.trans named, settled, rfl, ?_⟩
  rw [← name]
  exact (Dictionary.mem_keys_of_key? found).2

end Passes

end ApiWiring
