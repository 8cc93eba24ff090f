import ApiWiring.Proofs.Wiring.Nodes
import ApiWiring.Proofs.Wiring.Reordering
import ApiWiring.Proofs.Wiring.Siblings

/-!
# The consumers of the finished wiring

The wiring is filed at every step of both passes. After the first it knows the consumers of the
surveys, which are the values that the requests need, and no others; the second pass connects
consumers again that the first has left there, so it adds none. After the first pass no consumer is
supplied from its own body, and the second counts each one that it supplies so.
-/
namespace ApiWiring.Passes

variable {setting : Setting} {surveys : List Survey} {key : ConsumerKey}

/-- A respelled connection is supplied by a sibling when the connection is. -/
theorem bySibling_respelled (raw : Connection) (dictionary : Dictionary) :
    (raw.respelled dictionary).bySibling = raw.bySibling := by
  unfold Connection.respelled
  split
  · rename_i entry given
    rw [Connection.bySibling, Connection.bySibling, given]
    rfl
  · rfl

/-! ## The first pass -/

/-- Every consumer gets an answer. -/
theorem consumers_inferAll (inference : Inference) (ofEndpoint : Option Dictionary)
    (start : Dictionary) (consumers : List Consumer) :
    (inferAll inference ofEndpoint start consumers).1.map (·.consumer) = consumers := by
  induction consumers generalizing start with
  | nil => rfl
  | cons consumer rest ih => rw [inferAll_cons, List.map_cons, ih]

/-- Inference answers with no sibling. -/
theorem bySibling_of_mem_inferRequest (surveyed : Passes.surveys setting = .ok surveys)
    {survey : Survey} (listed : survey ∈ surveys) {raw : Connection}
    (member : raw ∈ (inferRequest setting (inference setting surveys) survey).1) :
    raw.bySibling = false := by
  rw [Connection.bySibling]
  cases given : raw.producer? with
  | none => rfl
  | some producer =>
    obtain ⟨_, _, _, _, _, answer⟩ := answer_of_mem_inferRequest surveyed listed member given
    cases answer <;> rfl

/-- Connecting connections of which none is supplied by a sibling keeps the wiring filed and its
number of siblings. -/
theorem filed_of_connectAll {dictionary : Dictionary} {wiring final : Wiring}
    {connections : List Connection} (plain : ∀ raw ∈ connections, raw.bySibling = false)
    (filed : wiring.Filed) (done : connectAll dictionary wiring connections = .ok final) :
    final.Filed ∧ final.connections.countP Connection.bySibling =
      wiring.connections.countP Connection.bySibling := by
  refine Outcome.foldlM_keeps (fun state => state.Filed ∧
    state.connections.countP Connection.bySibling =
      wiring.connections.countP Connection.bySibling) ?_ ⟨filed, rfl⟩ done
  rintro state raw next listed ⟨ordered, counted⟩ stepped
  obtain ⟨outcome, change⟩ := change_of_step stepped
  have gained := change.countP_bySibling
  rw [bySibling_respelled, plain raw listed, Bool.and_false] at gained
  exact ⟨change.filed ordered, gained.trans counted⟩

/-- A request's connections are put in one by one, each respelled. -/
theorem connectAll_eq (dictionary : Dictionary) (wiring : Wiring)
    (connections : List Connection) : connectAll dictionary wiring connections =
      wiring.connectEach (connections.map (·.respelled dictionary)) := by
  rw [Wiring.connectEach, List.foldlM_map, connectAll]
  rfl

/-- After connections were put in, the wiring knows their consumers and those it knew. -/
theorem knows_of_connectAll_iff {dictionary : Dictionary} {wiring final : Wiring}
    {connections : List Connection} (done : connectAll dictionary wiring connections = .ok final) :
    final.Knows key ↔ wiring.Knows key ∨ ∃ raw ∈ connections, raw.consumer.key = key := by
  rw [connectAll_eq] at done
  rw [Wiring.knows_of_connectEach_iff done]
  simp only [List.mem_map, exists_exists_and_eq_and, Connection.consumer_respelled]

/-- After connections were put in, a consumer has the producer that it had or that some connection,
respelled, gives it. -/
theorem producerAt?_of_connectAll_iff {dictionary : Dictionary} {wiring final : Wiring}
    {connections : List Connection} (done : connectAll dictionary wiring connections = .ok final)
    {producer : Producer} : final.producerAt? key = some producer ↔
      wiring.producerAt? key = some producer ∨ ∃ raw ∈ connections,
        raw.consumer.key = key ∧ (raw.respelled dictionary).producer? = some producer := by
  rw [connectAll_eq] at done
  rw [Wiring.producerAt?_of_connectEach_iff done]
  simp only [List.mem_map, exists_exists_and_eq_and, Connection.Gives,
    Connection.consumer_respelled]

/-- After the first pass the wiring is filed and no consumer is supplied from its own body. -/
theorem filed_of_first (surveyed : Passes.surveys setting = .ok surveys) {wired : Wired}
    (done : first setting surveys = .ok wired) :
    wired.wiring.Filed ∧ wired.wiring.connections.countP Connection.bySibling = 0 := by
  refine Outcome.foldlM_keeps (fun state : Wired => state.wiring.Filed ∧
    state.wiring.connections.countP Connection.bySibling = 0) ?_ ⟨Wiring.filed_empty, rfl⟩ done
  rintro state request next listed ⟨filed, counted⟩ stepped
  obtain ⟨survey, inSurveys, rfl⟩ := List.mem_map.mp listed
  obtain ⟨wiring, connected, built⟩ := Outcome.bind_eq_ok_iff.mp stepped
  cases built
  have plain : ∀ raw ∈ (inferRequest setting (inference setting surveys) survey).1,
      raw.bySibling = false :=
    fun raw member => bySibling_of_mem_inferRequest surveyed inSurveys member
  have kept := filed_of_connectAll plain filed connected
  exact ⟨kept.1, kept.2.trans counted⟩

/-- After the first pass the wiring knows the consumers of the surveys. -/
theorem knows_of_first_iff {wired : Wired} (done : first setting surveys = .ok wired) :
    wired.wiring.Knows key ↔ ∃ survey ∈ surveys, ∃ consumer ∈ survey.consumers,
      consumer.key = key := by
  have known : wired.wiring.Knows key ↔ Wiring.empty.Knows key ∨
      ∃ inferred ∈ surveys.map (inferRequest setting (inference setting surveys)),
        ∃ raw ∈ inferred.1, raw.consumer.key = key := by
    refine Outcome.foldlM_iff (fun state : Wired => state.wiring.Knows key)
      (fun inferred : List Connection × Dictionary =>
        ∃ raw ∈ inferred.1, raw.consumer.key = key) ?_ done
    intro state inferred next stepped
    obtain ⟨wiring, connected, built⟩ := Outcome.bind_eq_ok_iff.mp stepped
    cases built
    exact knows_of_connectAll_iff connected
  rw [known, or_iff_right Wiring.not_knows_empty]
  have asked : ∀ survey : Survey,
      (∃ raw ∈ (inferRequest setting (inference setting surveys) survey).1,
        raw.consumer.key = key) ↔ ∃ consumer ∈ survey.consumers, consumer.key = key := by
    intro survey
    have answered := consumers_inferAll (inference setting surveys)
      (setting.ofEndpoint.get? survey.request.endpoint) setting.dictionary survey.consumers
    conv => rhs; rw [← answered]
    simp only [List.mem_map, exists_exists_and_eq_and]
    rfl
  simp only [List.mem_map, exists_exists_and_eq_and, asked]

/-- The first pass leaves the consumers that the requests need. -/
theorem exists_consumer_iff (surveyed : Passes.surveys setting = .ok surveys) :
    (∃ survey ∈ surveys, ∃ consumer ∈ survey.consumers, consumer.key = key) ↔
      ∃ request ∈ setting.requests, request.Needs setting.options key := by
  constructor
  · rintro ⟨survey, listed, consumer⟩
    obtain ⟨request, asked, done⟩ := request_of_mem_surveys surveyed listed
    exact ⟨request, asked, (Survey.exists_consumer_iff done).mp consumer⟩
  · rintro ⟨request, asked, needed⟩
    obtain ⟨survey, listed, done⟩ := survey_of_mem_requests surveyed asked
    exact ⟨survey, listed, (Survey.exists_consumer_iff done).mpr needed⟩

/-! ## The second pass -/

/-- The consumers that the second pass connects are consumers of the surveys. -/
theorem exists_consumer_of_mem_pairs (surveyed : Passes.surveys setting = .ok surveys)
    {early : Wiring} {raw : Connection} (member : raw ∈ pairs setting surveys early) :
    ∃ survey ∈ surveys, ∃ consumer ∈ survey.consumers, consumer.key = raw.consumer.key := by
  obtain ⟨survey, listed, consumer, inSurvey, made⟩ := mem_pairs.mp member
  obtain ⟨slot, container, sought, _, rfl | rfl, _⟩ := pair_of_mem_siblingConnections made
  · exact ⟨survey, listed, consumer, inSurvey, rfl⟩
  · obtain ⟨_, _, ⟨home, atHome, inside⟩, _⟩ := listed_of_sibling? sought
    obtain ⟨request, _, done⟩ := request_of_mem_surveys surveyed atHome
    exact ⟨home, atHome, Survey.exists_consumer_of_mem_siblings done inside⟩

/-- The second pass keeps the wiring filed and counts the siblings. -/
theorem filed_of_second {inference : Inference} {wired : Wired} {progress : Progress}
    (filed : wired.wiring.Filed)
    (none : wired.wiring.connections.countP Connection.bySibling = 0)
    (done : second inference surveys wired = .ok progress) :
    progress.wired.wiring.Filed ∧
      progress.siblingCount = progress.wired.wiring.connections.countP Connection.bySibling := by
  refine Outcome.foldlM_keeps (fun state : Progress => state.wired.wiring.Filed ∧
    state.siblingCount = state.wired.wiring.connections.countP Connection.bySibling) ?_
    ⟨filed, none.symm⟩ done
  rintro state raw next listed ⟨ordered, counted⟩ stepped
  obtain ⟨_, outcome, connected, counting⟩ := retake_eq_ok stepped
  have change := Wiring.change_of_reconnect connected
  refine ⟨change.filed ordered, ?_⟩
  rw [counting, counted, change.countP_bySibling]
  rfl

/-- The second pass adds no consumer. -/
theorem knows_of_second_iff (surveyed : Passes.surveys setting = .ok surveys) {wired : Wired}
    (started : first setting surveys = .ok wired) {progress : Progress}
    (done : second (inference setting surveys) surveys wired = .ok progress) :
    progress.wired.wiring.Knows key ↔ wired.wiring.Knows key := by
  have known : progress.wired.wiring.Knows key ↔ wired.wiring.Knows key ∨
      ∃ raw ∈ pairs setting surveys wired.wiring, raw.consumer.key = key := by
    refine Outcome.foldlM_iff (fun state : Progress => state.wired.wiring.Knows key)
      (·.consumer.key = key) ?_ done
    intro state raw next stepped
    obtain ⟨_, outcome, connected, _⟩ := retake_eq_ok stepped
    rw [(Wiring.change_of_reconnect connected).knows_iff, Connection.consumer_respelled]
  rw [known, or_iff_left_of_imp]
  rintro ⟨raw, member, rfl⟩
  rw [knows_of_first_iff started]
  exact exists_consumer_of_mem_pairs surveyed member

/-! ## Both passes -/

/-- The wiring that the passes make one after the other is filed, and those supplied from their own
body are counted. -/
theorem filed_of_passes (surveyed : Passes.surveys setting = .ok surveys) {wired : Wired}
    (started : first setting surveys = .ok wired) {progress : Progress}
    (finished : second (inference setting surveys) surveys wired = .ok progress) :
    progress.wired.wiring.Filed ∧
      progress.siblingCount = progress.wired.wiring.connections.countP Connection.bySibling := by
  obtain ⟨filed, none⟩ := filed_of_first surveyed started
  exact filed_of_second filed none finished

/-- The finished wiring is filed. -/
theorem filed_of_run {result : Result} (ran : run setting = .ok result) :
    result.wired.wiring.Filed := by
  obtain ⟨surveys, early, progress, surveyed, started, finished, built, _⟩ := run_eq_ok ran
  rw [built]
  exact (filed_of_passes surveyed started finished).1

/-- The finished wiring knows the values that the requests need. -/
theorem knows_of_run_iff {result : Result} (ran : run setting = .ok result) :
    result.wired.wiring.Knows key ↔
      ∃ request ∈ setting.requests, request.Needs setting.options key := by
  obtain ⟨surveys, early, progress, surveyed, started, finished, built, _⟩ := run_eq_ok ran
  rw [built, knows_of_second_iff surveyed started finished, knows_of_first_iff started,
    exists_consumer_iff surveyed]

/-- The finished wiring has one connection for each value that the requests need and no other, all
of them there since the first pass; and the passes count those supplied from their own body. -/
theorem keys_of_run {result : Result} (ran : run setting = .ok result) :
    ∃ surveys early, Passes.surveys setting = .ok surveys ∧ first setting surveys = .ok early ∧
      result.wired.wiring.keys.Nodup ∧ early.wiring.keys.Perm result.wired.wiring.keys ∧
        (∀ key, key ∈ result.wired.wiring.keys ↔
          ∃ survey ∈ surveys, ∃ consumer ∈ survey.consumers, consumer.key = key) ∧
        result.siblingCount = result.wired.wiring.connections.countP Connection.bySibling := by
  obtain ⟨surveys, early, progress, surveyed, started, finished, built, counted⟩ := run_eq_ok ran
  have begun := filed_of_first surveyed started
  have ended := filed_of_passes surveyed started finished
  have same : ∀ key, key ∈ early.wiring.keys ↔ key ∈ progress.wired.wiring.keys := by
    intro key
    rw [begun.1.mem_keys_iff, ended.1.mem_keys_iff, knows_of_second_iff surveyed started finished]
  rw [built, counted]
  refine ⟨surveys, early, surveyed, started, ended.1.distinct, ?_, fun key => ?_, ended.2⟩
  · exact (List.perm_ext_iff_of_nodup begun.1.distinct ended.1.distinct).mpr same
  · rw [← same, begun.1.mem_keys_iff, knows_of_first_iff started]

end ApiWiring.Passes
