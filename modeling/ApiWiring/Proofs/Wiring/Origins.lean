import ApiWiring.Proofs.Wiring.Connecting
import ApiWiring.Proofs.Wiring.Spelling
import ApiWiring.Proofs.Wiring.Surveys

/-!
# Where connections come from

Every connection of the finished wiring was made by one of the two passes and takes the spelling of
a dictionary that the finished one grew out of (`Origin`). The first pass made it of an answer of
inference, and the spelling is that after the entries of its request were merged; the second pass
made it of a pair of properties of one body, and its entry was registered at once.
-/
namespace ApiWiring.Passes

open Text

/-- What made a connection of a wiring, given the wiring of the first pass and the finished
dictionary. -/
inductive Origin (setting : Setting) (surveys : List Survey) (early : Wiring)
    (final : Dictionary) : Connection → Prop where
  /-- The first pass, spelled as in the dictionary with the entries of the request. -/
  | inferred (survey : Survey) (listed : survey ∈ surveys) (raw : Connection)
    (member : raw ∈ (inferRequest setting (inference setting surveys) survey).1)
    (merged : Dictionary) (since : merged.Extends setting.dictionary)
    (taken : ∀ from_ key,
      (inferRequest setting (inference setting surveys) survey).2.Holds from_ key →
        merged.Holds from_ key)
    (kept : final.Extends merged) :
    Origin setting surveys early final (raw.respelled merged)
  /-- The second pass, spelled as in the dictionary before its entry was registered. -/
  | paired (survey : Survey) (listed : survey ∈ surveys) (consumer : Consumer)
    (surveyed : consumer ∈ survey.consumers) (raw : Connection)
    (member : raw ∈ siblingConnections (inference setting surveys) early consumer)
    (current : Dictionary) (kept : final.Extends (registered current (raw.respelled current))) :
    Origin setting surveys early final (raw.respelled current)

variable {setting : Setting} {surveys : List Survey} {early : Wiring}

/-- A connection made keeps its origin while the dictionary grows. -/
theorem Origin.grow {final later : Dictionary} {connection : Connection}
    (origin : Origin setting surveys early final connection) (grown : later.Extends final) :
    Origin setting surveys early later connection := by
  cases origin with
  | inferred survey listed raw member merged since taken kept =>
    exact .inferred survey listed raw member merged since taken (grown.trans kept)
  | paired survey listed consumer surveyed raw member current kept =>
    exact .paired survey listed consumer surveyed raw member current (grown.trans kept)

/-! ## The surveys -/

/-- A survey is that of one of the requests. -/
theorem request_of_mem_surveys (surveyed : Passes.surveys setting = .ok surveys) {survey : Survey}
    (listed : survey ∈ surveys) :
    ∃ request ∈ setting.requests,
      Survey.ofRequest setting.options setting.everywhere request = .ok survey :=
  Outcome.exists_member_of_forall₂ (Outcome.mapM_eq_ok_iff.mp surveyed) listed

/-- Each of the requests has its survey. -/
theorem survey_of_mem_requests (surveyed : Passes.surveys setting = .ok surveys)
    {request : Request} (asked : request ∈ setting.requests) :
    ∃ survey ∈ surveys, Survey.ofRequest setting.options setting.everywhere request = .ok survey :=
  Outcome.exists_result_of_forall₂ (Outcome.mapM_eq_ok_iff.mp surveyed) asked

/-- The links of the consumers surveyed have other requests produce. -/
theorem apart_of_mem_surveys (surveyed : Passes.surveys setting = .ok surveys) {survey : Survey}
    (listed : survey ∈ surveys) :
    ∀ consumer ∈ survey.consumers, consumer.LinkedElsewhere := by
  obtain ⟨request, _, done⟩ := request_of_mem_surveys surveyed listed
  intro consumer member
  exact (Survey.consumer_of_ofRequest done member).2

/-! ## The first pass -/

/-- The first consumer is answered first. -/
theorem inferAll_cons (inference : Inference) (ofEndpoint : Option Dictionary)
    (start : Dictionary) (consumer : Consumer) (rest : List Consumer) :
    inferAll inference ofEndpoint start (consumer :: rest) =
      (⟨consumer, (inference.find consumer start ofEndpoint).1⟩ ::
          (inferAll inference ofEndpoint (inference.find consumer start ofEndpoint).2 rest).1,
        (inferAll inference ofEndpoint (inference.find consumer start ofEndpoint).2 rest).2) :=
  rfl

/-- A connection of answered consumers is one of the consumers with what inference found for it from
some dictionary; and what the starting dictionary has and finding keeps, this one has. -/
theorem find_of_mem_inferAll (has : Dictionary → Prop) {inference : Inference}
    {ofEndpoint : Option Dictionary} {consumers : List Consumer} {start : Dictionary}
    (each : ∀ consumer ∈ consumers, ∀ before, has before →
      has (inference.find consumer before ofEndpoint).2)
    (started : has start) {connection : Connection}
    (member : connection ∈ (inferAll inference ofEndpoint start consumers).1) :
    connection.consumer ∈ consumers ∧ ∃ before, has before ∧
      connection.producer? = (inference.find connection.consumer before ofEndpoint).1 := by
  induction consumers generalizing start with
  | nil => exact absurd member List.not_mem_nil
  | cons consumer rest ih =>
    obtain ⟨here, later⟩ := List.forall_mem_cons.mp each
    rw [inferAll_cons] at member
    rcases List.mem_cons.mp member with rfl | inRest
    · exact ⟨.head _, start, started, rfl⟩
    · obtain ⟨listed, found⟩ := ih later (here start started) inRest
      exact ⟨.tail _ listed, found⟩

/-- Answering consumers makes the dictionary grow. -/
theorem extends_inferAll {inference : Inference} {ofEndpoint : Option Dictionary}
    {consumers : List Consumer} (apart : ∀ consumer ∈ consumers, consumer.LinkedElsewhere)
    (start : Dictionary) : (inferAll inference ofEndpoint start consumers).2.Extends start := by
  induction consumers generalizing start with
  | nil => exact .refl start
  | cons consumer rest ih =>
    obtain ⟨here, later⟩ := List.forall_mem_cons.mp apart
    rw [inferAll_cons]
    exact (ih later _).trans (Inference.extends_find here)

/-- A connection of answered consumers is one of the consumers with an answer of inference. -/
theorem answer_of_mem_inferAll {inference : Inference} {ofEndpoint : Option Dictionary}
    {consumers : List Consumer} (apart : ∀ consumer ∈ consumers, consumer.LinkedElsewhere)
    {start : Dictionary} {connection : Connection} {producer : Producer}
    (member : connection ∈ (inferAll inference ofEndpoint start consumers).1)
    (supplied : connection.producer? = some producer) :
    connection.consumer ∈ consumers ∧ ∃ before after, before.Extends start ∧
      (inferAll inference ofEndpoint start consumers).2.Extends after ∧
        inference.Answer connection.consumer ofEndpoint before producer after := by
  induction consumers generalizing start with
  | nil => exact absurd member List.not_mem_nil
  | cons consumer rest ih =>
    obtain ⟨here, later⟩ := List.forall_mem_cons.mp apart
    rw [inferAll_cons] at member ⊢
    rcases List.mem_cons.mp member with rfl | inRest
    · refine ⟨.head _, start, _, .refl start, extends_inferAll later _, ?_⟩
      exact Inference.answer_of_find here (Prod.ext supplied rfl)
    · obtain ⟨listed, before, after, since, kept, answer⟩ := ih later inRest
      exact ⟨.tail _ listed, before, after, since.trans (Inference.extends_find here), kept, answer⟩

/-- A connection inferred for a request is one of its consumers with an answer of inference. -/
theorem answer_of_mem_inferRequest (surveyed : Passes.surveys setting = .ok surveys)
    {survey : Survey} (listed : survey ∈ surveys) {connection : Connection} {producer : Producer}
    (member : connection ∈ (inferRequest setting (inference setting surveys) survey).1)
    (supplied : connection.producer? = some producer) :
    connection.consumer.slot.request = survey.request ∧ ∃ before after,
      before.Extends setting.dictionary ∧
        (inferRequest setting (inference setting surveys) survey).2.Extends after ∧
          (inference setting surveys).Answer connection.consumer
            (setting.ofEndpoint.get? survey.request.endpoint) before producer after := by
  have apart := apart_of_mem_surveys surveyed listed
  obtain ⟨inSurvey, answered⟩ := answer_of_mem_inferAll apart member supplied
  obtain ⟨request, _, done⟩ := request_of_mem_surveys surveyed listed
  refine ⟨?_, answered⟩
  rw [(Survey.consumer_of_ofRequest done inSurvey).1, (Survey.ofRequest_eq_ok done).1]

/-- Putting in one of the connections connects it, spelled as in the dictionary. -/
theorem connect_of_step {dictionary : Dictionary} {wiring next : Wiring} {raw : Connection}
    (stepped : (do
      let (wiring, _) ← wiring.connect (raw.respelled dictionary)
      return wiring) = Except.ok (ε := Failure) next) :
    ∃ outcome, wiring.connect (raw.respelled dictionary) = .ok (next, outcome) := by
  obtain ⟨⟨after, outcome⟩, connected, built⟩ := Outcome.bind_eq_ok_iff.mp stepped
  cases built
  exact ⟨outcome, connected⟩

/-- Putting in one of the connections is a change. -/
theorem change_of_step {dictionary : Dictionary} {wiring next : Wiring} {raw : Connection}
    (stepped : (do
      let (wiring, _) ← wiring.connect (raw.respelled dictionary)
      return wiring) = Except.ok (ε := Failure) next) :
    ∃ outcome, wiring.Change (raw.respelled dictionary) next outcome := by
  obtain ⟨outcome, connected⟩ := connect_of_step stepped
  exact ⟨outcome, Wiring.change_of_connect connected⟩

/-- A connection in a wiring after connections were put in was there before or is one of them,
respelled. -/
theorem mem_connections_connectAll {dictionary : Dictionary} {wiring final : Wiring}
    {connections : List Connection}
    (done : connectAll dictionary wiring connections = .ok final) :
    ∀ connection ∈ final.connections, connection ∈ wiring.connections ∨
      ∃ raw ∈ connections, connection = raw.respelled dictionary := by
  refine Outcome.foldlM_keeps (fun state => ∀ connection ∈ state.connections,
    connection ∈ wiring.connections ∨ ∃ raw ∈ connections, connection = raw.respelled dictionary)
    ?_ (fun connection member => .inl member) done
  intro state raw next listed known stepped connection member
  obtain ⟨outcome, change⟩ := change_of_step stepped
  rcases change.mem_connections member with rfl | old
  · exact .inr ⟨raw, listed, rfl⟩
  · exact known connection old

/-- Every connection of the first pass has its origin there. -/
theorem origin_of_first (early : Wiring) {wired : Wired}
    (done : first setting surveys = .ok wired) :
    wired.dictionary.Extends setting.dictionary ∧ ∀ connection ∈ wired.wiring.connections,
      Origin setting surveys early wired.dictionary connection := by
  refine Outcome.foldlM_keeps (fun wired : Wired =>
    wired.dictionary.Extends setting.dictionary ∧ ∀ connection ∈ wired.wiring.connections,
      Origin setting surveys early wired.dictionary connection) ?_ ⟨.refl _, ?_⟩ done
  · intro state request next listed known stepped
    obtain ⟨survey, inSurveys, rfl⟩ := List.mem_map.mp listed
    obtain ⟨wiring, connected, built⟩ := Outcome.bind_eq_ok_iff.mp stepped
    cases built
    have grown := Dictionary.extends_mergeMissing state.dictionary
      (inferRequest setting (inference setting surveys) survey).2
    refine ⟨grown.trans known.1, fun connection member => ?_⟩
    rcases mem_connections_connectAll connected connection member with old | ⟨raw, inside, rfl⟩
    · exact (known.2 connection old).grow grown
    · exact .inferred survey inSurveys raw inside _ (grown.trans known.1)
        (fun from_ key held => Dictionary.holds_mergeMissing held) (.refl _)
  · intro connection member
    exact absurd member List.not_mem_nil

/-! ## The second pass -/

/-- Registering what a connection takes makes a dictionary grow. -/
theorem extends_registered (dictionary : Dictionary) (connection : Connection) :
    (registered dictionary connection).Extends dictionary := by
  unfold registered
  split
  · exact Dictionary.extends_register _ _
  · exact .refl dictionary

/-- What one step of the second pass does. -/
theorem retake_eq_ok {progress next : Progress} {raw : Connection}
    (done : retake progress raw = .ok next) :
    next.wired.dictionary =
        registered progress.wired.dictionary (raw.respelled progress.wired.dictionary) ∧
      ∃ outcome, progress.wired.wiring.reconnect (raw.respelled progress.wired.dictionary) =
          .ok (next.wired.wiring, outcome) ∧
        next.siblingCount = progress.siblingCount + (outcome != .unchanged &&
          (raw.respelled progress.wired.dictionary).producer?.any Producer.isSibling).toNat := by
  obtain ⟨⟨wiring, outcome⟩, connected, built⟩ := Outcome.bind_eq_ok_iff.mp done
  cases built
  exact ⟨rfl, outcome, connected, rfl⟩

/-- A connection that the second pass makes for a consumer is one of a pair: the consumer with its
sibling, or the sibling with its unique name; and both are made. -/
theorem pair_of_mem_siblingConnections {inference : Inference} {consumer : Consumer}
    {raw : Connection} (member : raw ∈ siblingConnections inference early consumer) :
    ∃ slot container, inference.sibling? consumer = some slot ∧
      slot.containerName? = some container ∧
        (raw = ⟨consumer, some (.sibling slot)⟩ ∨
          raw = ⟨.plain slot .body, some (.dictionary (siblingEntry container slot))⟩) ∧
            siblingConnections inference early consumer = [⟨consumer, some (.sibling slot)⟩,
              ⟨.plain slot .body, some (.dictionary (siblingEntry container slot))⟩] := by
  unfold siblingConnections at member ⊢
  split at member
  · exact absurd member List.not_mem_nil
  · rename_i unsupplied
    rw [if_neg unsupplied]
    split at member
    · exact absurd member List.not_mem_nil
    · rename_i slot sought
      split at member
      · exact absurd member List.not_mem_nil
      · rename_i container named
        dsimp only at member
        split at member
        · exact absurd member List.not_mem_nil
        · rename_i replaceable
          refine ⟨slot, container, sought, named, List.mem_pair.mp member, ?_⟩
          dsimp only
          rw [if_neg replaceable]

/-- What the second pass works through. -/
def pairs (setting : Setting) (surveys : List Survey) (early : Wiring) : List Connection :=
  surveys.flatMap fun survey =>
    survey.consumers.flatMap (siblingConnections (inference setting surveys) early)

/-- A connection that the second pass works through is made for a consumer of a survey. -/
theorem mem_pairs {raw : Connection} :
    raw ∈ pairs setting surveys early ↔ ∃ survey ∈ surveys, ∃ consumer ∈ survey.consumers,
      raw ∈ siblingConnections (inference setting surveys) early consumer := by
  simp only [pairs, List.mem_flatMap]

/-- Every connection after the second pass has its origin there or in the first. -/
theorem origin_of_second {wired : Wired} {progress : Progress}
    (known : ∀ connection ∈ wired.wiring.connections,
      Origin setting surveys wired.wiring wired.dictionary connection)
    (done : second (inference setting surveys) surveys wired = .ok progress) :
    progress.wired.dictionary.Extends wired.dictionary ∧
      ∀ connection ∈ progress.wired.wiring.connections,
        Origin setting surveys wired.wiring progress.wired.dictionary connection := by
  refine Outcome.foldlM_keeps (fun progress : Progress =>
    progress.wired.dictionary.Extends wired.dictionary ∧
      ∀ connection ∈ progress.wired.wiring.connections,
        Origin setting surveys wired.wiring progress.wired.dictionary connection) ?_
    ⟨.refl _, known⟩ done
  intro state raw next listed held stepped
  obtain ⟨survey, inSurveys, consumer, surveyed, made⟩ := mem_pairs.mp listed
  obtain ⟨registering, outcome, connected, _⟩ := retake_eq_ok stepped
  have grown : next.wired.dictionary.Extends state.wired.dictionary := by
    rw [registering]
    exact extends_registered _ _
  refine ⟨grown.trans held.1, fun connection member => ?_⟩
  rcases (Wiring.change_of_reconnect connected).mem_connections member with rfl | old
  · rw [registering]
    exact .paired survey inSurveys consumer surveyed raw made _ (.refl _)
  · exact (held.2 connection old).grow grown

/-! ## Both passes -/

/-- A response producer comes from the first pass and was chosen there. -/
theorem Origin.chosen {final : Dictionary} {connection : Connection} {slot : Slot}
    (origin : Origin setting surveys early final connection)
    (surveyed : Passes.surveys setting = .ok surveys)
    (supplied : connection.producer? = some (.response slot)) :
    (inference setting surveys).Chosen connection.consumer slot := by
  cases origin with
  | inferred survey listed raw member merged since taken kept =>
    have given := Connection.producer?_of_respelled supplied rfl
    obtain ⟨_, before, after, _, _, answer⟩ :=
      answer_of_mem_inferRequest surveyed listed member given
    rw [Connection.consumer_respelled]
    cases answer with
    | response slot chosen => exact chosen
  | paired survey listed consumer inSurvey raw member current kept =>
    have given := Connection.producer?_of_respelled supplied rfl
    obtain ⟨_, _, _, _, rfl | rfl, _⟩ := pair_of_mem_siblingConnections member
    · cases given
    · cases given

/-- The course of the two passes. -/
theorem run_eq_ok {result : Result} (done : run setting = .ok result) :
    ∃ surveys wired progress, Passes.surveys setting = .ok surveys ∧
      first setting surveys = .ok wired ∧
        second (inference setting surveys) surveys wired = .ok progress ∧
          result.wired = progress.wired ∧ result.siblingCount = progress.siblingCount := by
  obtain ⟨surveys, surveyed, later⟩ := Outcome.bind_eq_ok_iff.mp done
  obtain ⟨wired, started, last⟩ := Outcome.bind_eq_ok_iff.mp later
  obtain ⟨progress, finished, built⟩ := Outcome.bind_eq_ok_iff.mp last
  cases built
  exact ⟨surveys, wired, progress, surveyed, started, finished, rfl, rfl⟩

/-- The finished dictionary grew out of the starting one, and every connection of the finished
wiring has its origin in one of the passes. -/
theorem origins_of_run {result : Result} (ran : run setting = .ok result) :
    result.wired.dictionary.Extends setting.dictionary ∧
      ∃ surveys early, Passes.surveys setting = .ok surveys ∧
        ∀ connection ∈ result.wired.wiring.connections,
          Origin setting surveys early result.wired.dictionary connection := by
  obtain ⟨surveys, wired, progress, surveyed, started, finished, built, _⟩ := run_eq_ok ran
  obtain ⟨since, known⟩ := origin_of_first wired.wiring started
  obtain ⟨later, origins⟩ := origin_of_second known finished
  rw [built]
  exact ⟨later.trans since, surveys, wired.wiring, surveyed, origins⟩

end ApiWiring.Passes
