import ApiWiring.Proofs.Wiring.Origins

/-!
# Siblings of the finished wiring

A value that is supplied from its own body is supplied by a property of that body called `name`, and
this property is itself supplied by a dictionary entry: the unique name made of its container and
its own name, spelled as the dictionary spells it. The second pass puts the two into the wiring side
by side; every later pair with the same `name` property puts in the same entry again, so what the
first one settled stays.
-/
namespace ApiWiring.Passes

variable {setting : Setting} {surveys : List Survey} {early : Wiring} {slot : Slot}

/-- Whether the consumer of a key has a unique name for its producer, spelled as the dictionary
spells it. -/
def Settled (key : ConsumerKey) (raw : CustomPayload) (progress : Progress) : Prop :=
  ∃ stored, progress.wired.dictionary.key? raw.section_ raw.name = some stored ∧
    progress.wired.wiring.producerAt? key = some (.dictionary { raw with name := stored })

/-- Taking up a connection with a dictionary entry settles its consumer. -/
theorem settled_of_retake {connection : Connection} {raw : CustomPayload}
    {progress next : Progress} (given : connection.producer? = some (.dictionary raw))
    (sought : raw.section_ ≠ .header) (done : retake progress connection = .ok next) :
    Settled connection.consumer.key raw next := by
  obtain ⟨registering, outcome, connected, _⟩ := retake_eq_ok done
  have respelled : (connection.respelled progress.wired.dictionary).producer? =
      some (.dictionary (raw.respelled progress.wired.dictionary)) :=
    Connection.producer?_respelled_of_dictionary given
  refine ⟨(raw.respelled progress.wired.dictionary).name, ?_, ?_⟩
  · rw [registering, registered, respelled]
    exact CustomPayload.key?_register_respelled sought
  · rw [(Wiring.change_of_reconnect connected).producerAt?, Connection.consumer_respelled,
      if_pos rfl,
      respelled]
    rfl

/-- Taking up a connection keeps a consumer settled, if it does not give the consumer another
entry. -/
theorem settled_of_settled {key : ConsumerKey} {connection : Connection} {raw : CustomPayload}
    {progress next : Progress} (settled : Settled key raw progress)
    (sought : raw.section_ ≠ .header)
    (agrees : connection.consumer.key = key → connection.producer? = some (.dictionary raw))
    (done : retake progress connection = .ok next) : Settled key raw next := by
  by_cases own : connection.consumer.key = key
  · rw [← own]
    exact settled_of_retake (agrees own) sought done
  · obtain ⟨registering, outcome, connected, _⟩ := retake_eq_ok done
    obtain ⟨stored, found, producer⟩ := settled
    refine ⟨stored, ?_, ?_⟩
    · rw [registering]
      exact (extends_registered _ _).key? found
    · rw [(Wiring.change_of_reconnect connected).producerAt?, Connection.consumer_respelled,
        if_neg (Ne.symm own)]
      exact producer

/-- A sibling chosen for a consumer is a property called `name` that some survey lists, of the
consumer's own request and valid for it, and the consumer is an `id` property of a body. -/
theorem listed_of_sibling? {consumer : Consumer}
    (found : (inference setting surveys).sibling? consumer = some slot) :
    consumer.kind = .body ∧ consumer.slot.name = "id" ∧
      (∃ survey ∈ surveys, slot ∈ survey.siblings) ∧ slot.name = "name" ∧
        slot.request = consumer.slot.request ∧
          Inference.isValidSibling slot consumer.slot = true := by
  unfold Inference.sibling? at found
  split at found
  · rename_i asks
    have among := (Slot.isFirst_of_minOn? (fun _ => rfl) found).mem
    obtain ⟨listed, valid⟩ := List.mem_filter.mp (List.mem_filter.mp among).1
    have catalogued : (inference setting surveys).catalog.siblingsOf "name" consumer.slot.request =
        ((surveys.flatMap (·.siblings)).filter (·.name == "name")).filter
          (·.request == consumer.slot.request) :=
      Catalog.siblingsOf_ofLists _ _ _ _
    rw [catalogued] at listed
    obtain ⟨named, owner⟩ := List.mem_filter.mp listed
    obtain ⟨inSurveys, called⟩ := List.mem_filter.mp named
    exact ⟨asks.1, asks.2.1, List.mem_flatMap.mp inSurveys, beq_iff_eq.mp called,
      beq_iff_eq.mp owner, valid⟩
  · cases found

/-- Pairs are made for values of bodies and of values of bodies. -/
theorem kind_of_mem_siblingConnections {consumer : Consumer} {raw : Connection}
    (made : raw ∈ siblingConnections (inference setting surveys) early consumer) :
    consumer.kind = .body ∧ raw.consumer.kind = .body := by
  obtain ⟨_, _, sought, _, rfl | rfl, _⟩ := pair_of_mem_siblingConnections made
  · exact ⟨(listed_of_sibling? sought).1, (listed_of_sibling? sought).1⟩
  · exact ⟨(listed_of_sibling? sought).1, rfl⟩

/-- What the second pass works through is about values of bodies. -/
theorem kind_of_mem_pairs {raw : Connection} (paired : raw ∈ pairs setting surveys early) :
    raw.consumer.kind = .body := by
  obtain ⟨_, _, _, _, made⟩ := mem_pairs.mp paired
  exact (kind_of_mem_siblingConnections made).2

/-- A sibling chosen for a consumer is a property `name` of the body of the consumer's request, and
the consumer is an `id` property of a body. -/
theorem sibling_of_sibling? (surveyed : Passes.surveys setting = .ok surveys)
    {consumer : Consumer} (found : (inference setting surveys).sibling? consumer = some slot) :
    consumer.kind = .body ∧ consumer.slot.name = "id" ∧ slot.name = "name" ∧
      slot.InBody consumer.slot.request setting.options.convention := by
  obtain ⟨kind, identified, ⟨survey, listed, inside⟩, called, owner, _⟩ := listed_of_sibling? found
  obtain ⟨request, _, done⟩ := request_of_mem_surveys surveyed listed
  have inBody := (Survey.inBody_of_mem_siblings done inside).1
  rw [← inBody.1, owner] at inBody
  exact ⟨kind, identified, called, inBody⟩

/-- Every connection of the second pass for the consumer of a `name` property gives it the unique
name of that property. -/
theorem agrees_of_mem_pairs (surveyed : Passes.surveys setting = .ok surveys)
    {request : RequestId} {container : String}
    (inBody : slot.InBody request setting.options.convention) (called : slot.name = "name")
    (named : slot.containerName? = some container) {connection : Connection}
    (member : connection ∈ pairs setting surveys early)
    (same : connection.consumer.key = (Consumer.plain slot .body).key) :
    connection.producer? = some (.dictionary (siblingEntry container slot)) := by
  obtain ⟨survey, _, consumer, _, made⟩ := mem_pairs.mp member
  obtain ⟨other, around, sought, contained, rfl | rfl, _⟩ := pair_of_mem_siblingConnections made
  · -- The consumer of a pair is called `id`, so it has another key.
    obtain ⟨_, identified, _⟩ := sibling_of_sibling? surveyed sought
    have name : consumer.slot.name = slot.name := congrArg ConsumerKey.name same
    rw [identified, called] at name
    exact absurd name (by decide)
  · obtain ⟨_, _, otherCalled, otherBody⟩ := sibling_of_sibling? surveyed sought
    have owner : other.request = slot.request := congrArg ConsumerKey.request same
    have path : other.accessPath = slot.accessPath := congrArg ConsumerKey.path same
    have alike := otherBody.untyped_eq inBody owner path
    have blind : Slot.TypeBlind Slot.containerName? := fun _ => rfl
    have equal : container = around := by
      have containers := blind.congr alike
      rw [contained, named] at containers
      exact (Option.some.inj containers).symm
    rw [siblingEntry, siblingEntry, otherCalled, called, equal]

/-- After the second pass every `name` property that supplies a value of its body is settled. -/
theorem settled_of_second (surveyed : Passes.surveys setting = .ok surveys) {wired : Wired}
    {progress : Progress} (done : second (inference setting surveys) surveys wired = .ok progress)
    {request : RequestId} {container : String}
    (inBody : slot.InBody request setting.options.convention) (called : slot.name = "name")
    (named : slot.containerName? = some container)
    (paired : ⟨.plain slot .body, some (.dictionary (siblingEntry container slot))⟩ ∈
      pairs setting surveys wired.wiring) :
    Settled (Consumer.plain slot .body).key (siblingEntry container slot) progress := by
  have sought := CustomPayload.section_uniqueName_ne_header (container ++ "_" ++ slot.name)
  refine Outcome.foldlM_settles (Settled (Consumer.plain slot .body).key
    (siblingEntry container slot)) paired ?_ ?_ done
  · intro state next stepped
    exact settled_of_retake rfl sought stepped
  · intro state other next listed settled stepped
    exact settled_of_settled settled sought
      (agrees_of_mem_pairs surveyed inBody called named listed) stepped

/-- A connection supplied from its own body comes from a pair of the second pass: its producer is
the sibling chosen for its consumer, and the pair gives that property its unique name. -/
theorem Origin.partner {final : Dictionary} {connection : Connection}
    (origin : Origin setting surveys early final connection)
    (surveyed : Passes.surveys setting = .ok surveys)
    (supplied : connection.producer? = some (.sibling slot)) :
    (inference setting surveys).sibling? connection.consumer = some slot ∧
      ∃ container, slot.containerName? = some container ∧
        ⟨.plain slot .body, some (.dictionary (siblingEntry container slot))⟩ ∈
          pairs setting surveys early := by
  cases origin with
  | inferred survey listed raw inferred merged since taken kept =>
    have given := Connection.producer?_of_respelled supplied rfl
    obtain ⟨_, _, _, _, _, answer⟩ := answer_of_mem_inferRequest surveyed listed inferred given
    cases answer
  | paired survey listed consumer inSurvey raw made current kept =>
    have given := Connection.producer?_of_respelled supplied rfl
    obtain ⟨other, container, sought, named, rfl | rfl, pair⟩ :=
      pair_of_mem_siblingConnections made
    · cases given
      rw [Connection.consumer_respelled]
      have partner : ⟨.plain slot .body, some (.dictionary (siblingEntry container slot))⟩ ∈
          siblingConnections (inference setting surveys) early consumer := by
        rw [pair]
        exact .tail _ (.head _)
      exact ⟨sought, container, named,
        mem_pairs.mpr ⟨survey, listed, consumer, inSurvey, partner⟩⟩
    · cases given

/-- A value supplied from its own body is supplied by a `name` property of that body, and this
property by the unique name made of its container and its name, as the dictionary spells it. -/
theorem sibling_of_run {result : Result} (ran : run setting = .ok result) {connection : Connection}
    (member : connection ∈ result.wired.wiring.connections)
    (supplied : connection.producer? = some (.sibling slot)) :
    connection.consumer.kind = .body ∧ slot.request = connection.consumer.slot.request ∧
      ∃ container stored, slot.containerName? = some container ∧
        result.wired.dictionary.key? .uuidSuffix (siblingEntry container slot).name = some stored ∧
          result.wired.wiring.producerAt? (Consumer.plain slot .body).key =
            some (.dictionary { siblingEntry container slot with name := stored }) := by
  obtain ⟨surveys, wired, progress, surveyed, started, finished, built, _⟩ := run_eq_ok ran
  rw [built] at member ⊢
  have origins := origin_of_second (origin_of_first _ started).2 finished
  obtain ⟨sought, container, named, paired⟩ :=
    (origins.2 connection member).partner surveyed supplied
  obtain ⟨kind, _, called, inBody⟩ := sibling_of_sibling? surveyed sought
  obtain ⟨stored, found, producer⟩ :=
    settled_of_second surveyed finished inBody called named paired
  exact ⟨kind, inBody.1, container, stored, named, found, producer⟩

end ApiWiring.Passes
