import ApiWiring.Proofs.Wiring.Reinference

/-!
# Which requests reach which

A consumer learns of other requests only through the responses that all of them offer. The first
pass answers every request from the starting dictionary; what others add to it afterwards decides in
which case the name of an entry is spelled, and nothing else. The second pass looks at the request's
own identity only. So two runs that offer the same responses and ask the same for the requests of
one identity (`Parallel`) record the same producers there, up to the case of the names of dictionary
entries (`Wiring.AgreeAt`), whatever else they ask for.
-/
namespace ApiWiring

open Text

/-! ## The same producers -/

/-- Whether producers are the same but for the case in which the name of an entry is spelled. -/
inductive Producer.Alike : Producer → Producer → Prop where
  /-- They are the same. -/
  | same (producer : Producer) : Alike producer producer
  /-- They are entries of one section for one type of value, and their names differ in case only. -/
  | entries (left right : CustomPayload) (placed : left.section_ = right.section_)
    (typed : left.type = right.type) (shaped : left.isObject = right.isObject)
    (spelled : EqualIgnoringCase left.name right.name) :
    Alike (.dictionary left) (.dictionary right)

namespace Producer.Alike

variable {first second third : Producer}

/-- Producers are alike in both directions. -/
theorem symm (alike : first.Alike second) : second.Alike first := by
  cases alike with
  | same => exact .same first
  | entries left right placed typed shaped spelled =>
    exact .entries right left placed.symm typed.symm shaped.symm spelled.symm

/-- Producers that are alike to one are alike. -/
theorem trans (alike : first.Alike second) (further : second.Alike third) :
    first.Alike third := by
  cases alike with
  | same => exact further
  | entries left right placed typed shaped spelled =>
    cases further with
    | same => exact .entries left right placed typed shaped spelled
    | entries _ other also again too still =>
      exact .entries left other (placed.trans also) (typed.trans again) (shaped.trans too)
        (spelled.trans still)

/-- Of producers that are alike both are entries or none is. -/
theorem isDictionary_eq (alike : first.Alike second) :
    first.isDictionary = second.isDictionary := by
  cases alike <;> rfl

variable {left right middle : Option Producer}

/-- Where producers are alike, both sides have one or none has. -/
theorem isSome_eq (alike : Option.Rel Producer.Alike left right) : left.isSome = right.isSome := by
  cases alike <;> rfl

/-- Where producers are alike, a test that sees only whether they are entries sees the same. -/
theorem any_eq (alike : Option.Rel Producer.Alike left right) (test : Bool → Bool) :
    left.any (fun producer => test producer.isDictionary) =
      right.any (fun producer => test producer.isDictionary) := by
  cases alike with
  | none => rfl
  | some alike => rw [Option.any_some, Option.any_some, alike.isDictionary_eq]

/-- What is alike to the same producers is alike. -/
theorem join (first : Option.Rel Producer.Alike middle left)
    (second : Option.Rel Producer.Alike middle right) : Option.Rel Producer.Alike left right := by
  cases first with
  | none =>
    cases second
    exact .none
  | some one =>
    cases second with
    | some other => exact .some (one.symm.trans other)

end Producer.Alike

/-- Whether two wirings record the same of a key: they know it, or neither does, and it has alike
producers or none. -/
structure Wiring.AgreeAt (left right : Wiring) (key : ConsumerKey) : Prop where
  /-- Both know the key or neither does. -/
  known : left.Knows key ↔ right.Knows key
  /-- The producers are alike. -/
  producer : Option.Rel Producer.Alike (left.producerAt? key) (right.producerAt? key)

/-- Two spellings of a connection have alike producers. -/
theorem Connection.alike_respelled (raw : Connection) (left right : Dictionary) :
    Option.Rel Producer.Alike (raw.respelled left).producer? (raw.respelled right).producer? := by
  cases given : raw.producer? with
  | none =>
    have unsupplied : ∀ dictionary, (raw.respelled dictionary).producer? = none := by
      intro dictionary
      rw [← Option.not_isSome_iff_eq_none, isSome_producer?_respelled, given]
      exact Bool.false_ne_true
    rw [unsupplied, unsupplied]
    exact .none
  | some producer =>
    cases producer with
    | response | sibling =>
      rw [producer?_respelled_of_other given rfl, producer?_respelled_of_other given rfl]
      exact .some (.same _)
    | dictionary entry =>
      rw [producer?_respelled_of_dictionary given, producer?_respelled_of_dictionary given]
      have spelled := (CustomPayload.name_respelled entry left).trans
        (CustomPayload.name_respelled entry right).symm
      exact .some (.entries _ _ rfl rfl rfl spelled)

/-! ## What inference looks at -/

namespace Inference

variable {inference other : Inference}

/-- Producers are found among the responses; siblings do not matter. -/
theorem find_congr (responses : other.catalog.responses = inference.catalog.responses)
    (allowGet : other.allowGet = inference.allowGet) : other.find = inference.find := by
  have named : other.catalog.named = inference.catalog.named := by
    funext name
    simp only [Catalog.named, responses]
  have similar : other.catalog.similarNames = inference.catalog.similarNames := by
    funext name
    simp only [Catalog.similarNames, responses]
  have linked : Link.producerSlot? other.catalog = Link.producerSlot? inference.catalog := by
    funext link
    simp only [Link.producerSlot?, named]
  have ofType : other.topOfType = inference.topOfType := by
    funext consumer name type
    simp only [topOfType, Catalog.ofType, named, allowGet]
  have byName : other.namedProducer? = inference.namedProducer? := by
    funext consumer dictionary name
    simp only [namedProducer?, pathProducer?, atEndpointBefore, created?, atSimilarEndpoint,
      valueProducer?, ofContainer?, ofImpliedType, valid, methods, Catalog.matching,
      Catalog.atEndpoint, Catalog.ofType, named, similar, ofType, allowGet]
  funext consumer dictionary own
  simp only [find, linkedProducer?, inferred?, linked, byName]

/-- Siblings are found among those of the consumer's request. -/
theorem sibling?_congr {consumer : Consumer}
    (same : other.catalog.siblingsOf "name" consumer.slot.request =
      inference.catalog.siblingsOf "name" consumer.slot.request) :
    other.sibling? consumer = inference.sibling? consumer := by
  simp only [sibling?, same]

end Inference

namespace Passes

/-- Consumers get the same answers by inferences that find the same. -/
theorem inferAll_congr {inference other : Inference} (same : other.find = inference.find)
    (own : Option Dictionary) (start : Dictionary) (consumers : List Consumer) :
    inferAll other own start consumers = inferAll inference own start consumers := by
  induction consumers generalizing start with
  | nil => rfl
  | cons consumer rest ih => rw [inferAll_cons, inferAll_cons, same, ih]

/-- The pairs for a consumer are the same if its sibling is and both have alike producers. -/
theorem siblingConnections_congr {inference other : Inference} {early late : Wiring}
    {consumer : Consumer} (same : other.sibling? consumer = inference.sibling? consumer)
    (own : Option.Rel Producer.Alike (early.producerAt? consumer.key)
      (late.producerAt? consumer.key))
    (supplier : ∀ slot, inference.sibling? consumer = some slot →
      Option.Rel Producer.Alike (early.producerAt? (Consumer.plain slot .body).key)
        (late.producerAt? (Consumer.plain slot .body).key)) :
    siblingConnections other late consumer = siblingConnections inference early consumer := by
  have present := Producer.Alike.isSome_eq own
  simp only [Wiring.producerAt?] at present
  simp only [siblingConnections, same, present]
  cases sought : inference.sibling? consumer with
  | none => rfl
  | some slot =>
    have settled := Producer.Alike.any_eq (supplier slot sought) (!·)
    simp only [Wiring.producerAt?] at settled
    simp only [settled]

variable {setting other : Setting} {surveys others : List Survey} {id : RequestId}
  {key : ConsumerKey} {raw : Connection}

/-- A consumer surveyed belongs to the request of its survey. -/
theorem request_of_mem_consumers (surveyed : Passes.surveys setting = .ok surveys)
    {survey : Survey} (listed : survey ∈ surveys) {consumer : Consumer}
    (member : consumer ∈ survey.consumers) : consumer.slot.request = survey.request := by
  obtain ⟨request, _, done⟩ := request_of_mem_surveys surveyed listed
  exact (Survey.consumer_of_ofRequest done member).1.trans (Survey.ofRequest_eq_ok done).1.symm

/-- What a pair gives to its consumer the consumer has in the end, up to the case of names. -/
theorem alike_of_mem_pairs (surveyed : Passes.surveys setting = .ok surveys) {wired : Wired}
    {progress : Progress} (done : second (inference setting surveys) surveys wired = .ok progress)
    (member : raw ∈ pairs setting surveys wired.wiring) :
    Option.Rel Producer.Alike raw.producer?
      (progress.wired.wiring.producerAt? raw.consumer.key) := by
  obtain ⟨survey, listed, consumer, inside, made⟩ := mem_pairs.mp member
  obtain ⟨slot, container, sought, named, rfl | rfl, _⟩ := pair_of_mem_siblingConnections made
  · rw [producerAt?_of_second surveyed done member rfl]
    exact .some (.same _)
  · obtain ⟨_, _, called, inBody⟩ := sibling_of_sibling? surveyed sought
    obtain ⟨stored, found, settled⟩ := settled_of_second surveyed done inBody called named member
    rw [settled]
    have spelled := (Dictionary.mem_keys_of_key? found).2
    exact .some (.entries _ _ rfl rfl rfl spelled.symm)

/-! ## Two runs -/

/-- Whether two settings with their surveys are the same to the requests of an identity: they start
from the same dictionaries, the same responses are offered, and for these requests the same
consumers and the same siblings are surveyed. -/
structure Parallel (setting other : Setting) (surveys others : List Survey) (id : RequestId) :
    Prop where
  /-- The starting dictionaries are the same. -/
  dictionary : other.dictionary = setting.dictionary
  /-- So are those of single endpoints. -/
  ofEndpoint : other.ofEndpoint = setting.ofEndpoint
  /-- Reading requests produce in both or in neither. -/
  allowGet : other.options.allowGet = setting.options.allowGet
  /-- The same responses are offered, in the same order. -/
  responses : others.flatMap (·.responses) = surveys.flatMap (·.responses)
  /-- The identity has the same siblings, in the same order. -/
  siblings : (others.flatMap (·.siblings)).filter (·.request == id) =
    (surveys.flatMap (·.siblings)).filter (·.request == id)
  /-- The surveys of the identity list the same consumers. -/
  consumers : ∀ consumers, (∃ survey ∈ surveys, survey.request = id ∧
      survey.consumers = consumers) ↔
    ∃ survey ∈ others, survey.request = id ∧ survey.consumers = consumers

namespace Parallel

variable {wired again : Wired} {progress final : Progress}

/-- What is the same to an identity is so in both directions. -/
theorem symm (parallel : Parallel setting other surveys others id) :
    Parallel other setting others surveys id where
  dictionary := parallel.dictionary.symm
  ofEndpoint := parallel.ofEndpoint.symm
  allowGet := parallel.allowGet.symm
  responses := parallel.responses.symm
  siblings := parallel.siblings.symm
  consumers consumers := (parallel.consumers consumers).symm

/-- Both runs find the same producers. -/
theorem find_eq (parallel : Parallel setting other surveys others id) :
    (inference other others).find = (inference setting surveys).find := by
  refine Inference.find_congr ?_ parallel.allowGet
  simp only [inference, Catalog.responses_ofLists, parallel.responses]

/-- Both runs find the same siblings for the consumers of the identity. -/
theorem sibling?_eq (parallel : Parallel setting other surveys others id) {consumer : Consumer}
    (owner : consumer.slot.request = id) :
    (inference other others).sibling? consumer = (inference setting surveys).sibling? consumer := by
  refine Inference.sibling?_congr ?_
  simp only [inference, Catalog.siblingsOf_ofLists, owner]
  rw [List.filter_comm, parallel.siblings, List.filter_comm]

/-- A request of the identity has a request with the same answers in the other run. -/
theorem exists_inferRequest_eq (parallel : Parallel setting other surveys others id)
    {survey : Survey} (listed : survey ∈ surveys) (owner : survey.request = id) :
    ∃ another ∈ others, another.request = id ∧ another.consumers = survey.consumers ∧
      inferRequest other (inference other others) another =
        inferRequest setting (inference setting surveys) survey := by
  obtain ⟨another, asked, called, same⟩ :=
    (parallel.consumers survey.consumers).mp ⟨survey, listed, owner, rfl⟩
  refine ⟨another, asked, called, same, ?_⟩
  rw [inferRequest, inferRequest, inferAll_congr parallel.find_eq, same, parallel.dictionary,
    parallel.ofEndpoint, called, owner]

/-- What the first pass of one run gives to a key of the identity that of the other gives to it too,
up to the case of names. -/
theorem exists_alike_of_first (parallel : Parallel setting other surveys others id)
    (surveyed : Passes.surveys setting = .ok surveys) (started : first setting surveys = .ok wired)
    (restarted : first other others = .ok again) (owner : key.request = id) {producer : Producer}
    (had : wired.wiring.producerAt? key = some producer) :
    ∃ another, again.wiring.producerAt? key = some another ∧ producer.Alike another := by
  obtain ⟨survey, listed, raw, member, merged, rfl, given⟩ := exists_raw_of_first started had
  have inside : raw.consumer ∈ survey.consumers :=
    (find_of_mem_inferAll (fun _ => True) (fun _ _ _ _ => trivial) trivial member).1
  obtain ⟨another, asked, _, _, same⟩ := parallel.exists_inferRequest_eq listed
    ((request_of_mem_consumers surveyed listed inside).symm.trans owner)
  rw [← same] at member
  have present : raw.producer?.isSome := by
    rw [← Connection.isSome_producer?_respelled raw merged, given]
    rfl
  obtain ⟨spelling, taken, respelled, there⟩ :=
    producerAt?_of_first restarted asked member present
  have alike := Connection.alike_respelled raw merged spelling
  rw [given, respelled] at alike
  cases alike with
  | some alike => exact ⟨taken, there, alike⟩

/-- The first passes of both runs give alike producers to the keys of the identity. -/
theorem alike_of_first (parallel : Parallel setting other surveys others id)
    (surveyed : Passes.surveys setting = .ok surveys)
    (resurveyed : Passes.surveys other = .ok others) (started : first setting surveys = .ok wired)
    (restarted : first other others = .ok again) (owner : key.request = id) :
    Option.Rel Producer.Alike (wired.wiring.producerAt? key) (again.wiring.producerAt? key) := by
  cases had : wired.wiring.producerAt? key with
  | some producer =>
    obtain ⟨another, has, alike⟩ :=
      parallel.exists_alike_of_first surveyed started restarted owner had
    rw [has]
    exact .some alike
  | none =>
    cases has : again.wiring.producerAt? key with
    | none => exact .none
    | some another =>
      obtain ⟨_, there, _⟩ :=
        parallel.symm.exists_alike_of_first resurveyed restarted started owner has
      rw [had] at there
      cases there

/-- The pairs of one run for the identity are among those of the other. -/
theorem mem_pairs_of_mem_pairs (parallel : Parallel setting other surveys others id)
    (surveyed : Passes.surveys setting = .ok surveys) {early late : Wiring}
    (alike : ∀ key : ConsumerKey, key.request = id →
      Option.Rel Producer.Alike (early.producerAt? key) (late.producerAt? key))
    (member : raw ∈ pairs setting surveys early) (owner : raw.consumer.key.request = id) :
    raw ∈ pairs other others late := by
  obtain ⟨survey, listed, consumer, inside, made⟩ := mem_pairs.mp member
  obtain ⟨slot, container, sought, _, spoken, _⟩ := pair_of_mem_siblingConnections made
  obtain ⟨_, _, _, _, together, _⟩ := listed_of_sibling? sought
  have asks : consumer.slot.request = id := by
    rcases spoken with rfl | rfl
    · exact owner
    · exact together.symm.trans owner
  obtain ⟨another, asked, _, same, _⟩ := parallel.exists_inferRequest_eq listed
    ((request_of_mem_consumers surveyed listed inside).symm.trans asks)
  rw [← same] at inside
  refine mem_pairs.mpr ⟨another, asked, consumer, inside, ?_⟩
  have equal := siblingConnections_congr (parallel.sibling?_eq asks) (alike consumer.key asks)
    fun other found => alike _ ((listed_of_sibling? found).2.2.2.2.1.trans asks)
  rw [equal]
  exact made

/-- A value that one run asks for in a request of the identity the other asks for too. -/
theorem exists_consumer (parallel : Parallel setting other surveys others id)
    (surveyed : Passes.surveys setting = .ok surveys) (owner : key.request = id)
    (needed : ∃ survey ∈ surveys, ∃ consumer ∈ survey.consumers, consumer.key = key) :
    ∃ survey ∈ others, ∃ consumer ∈ survey.consumers, consumer.key = key := by
  obtain ⟨survey, listed, consumer, inside, rfl⟩ := needed
  obtain ⟨another, asked, _, same, _⟩ := parallel.exists_inferRequest_eq listed
    ((request_of_mem_consumers surveyed listed inside).symm.trans owner)
  rw [← same] at inside
  exact ⟨another, asked, consumer, inside, rfl⟩

/-- Both runs give alike producers to the keys of the identity. -/
theorem alike_of_second (parallel : Parallel setting other surveys others id)
    (surveyed : Passes.surveys setting = .ok surveys)
    (resurveyed : Passes.surveys other = .ok others) (started : first setting surveys = .ok wired)
    (restarted : first other others = .ok again)
    (finished : second (inference setting surveys) surveys wired = .ok progress)
    (refinished : second (inference other others) others again = .ok final)
    (owner : key.request = id) : Option.Rel Producer.Alike
      (progress.wired.wiring.producerAt? key) (final.wired.wiring.producerAt? key) := by
  have alike : ∀ key : ConsumerKey, key.request = id → Option.Rel Producer.Alike
      (wired.wiring.producerAt? key) (again.wiring.producerAt? key) :=
    fun key => parallel.alike_of_first surveyed resurveyed started restarted
  have back : ∀ key : ConsumerKey, key.request = id → Option.Rel Producer.Alike
      (again.wiring.producerAt? key) (wired.wiring.producerAt? key) :=
    fun key => parallel.symm.alike_of_first resurveyed surveyed restarted started
  by_cases paired : ∃ raw ∈ pairs setting surveys wired.wiring, raw.consumer.key = key
  · obtain ⟨raw, member, rfl⟩ := paired
    have left := alike_of_mem_pairs surveyed finished member
    have right := alike_of_mem_pairs resurveyed refinished
      (parallel.mem_pairs_of_mem_pairs surveyed alike member owner)
    exact Producer.Alike.join left right
  · rw [producerAt?_of_apart finished fun raw member same => paired ⟨raw, member, same⟩]
    rw [producerAt?_of_apart refinished fun raw member same => paired ⟨raw,
      parallel.symm.mem_pairs_of_mem_pairs resurveyed back member (same ▸ owner), same⟩]
    exact alike key owner

/-- Both runs record the same of the keys of the identity. -/
theorem agreeAt (parallel : Parallel setting other surveys others id)
    (surveyed : Passes.surveys setting = .ok surveys)
    (resurveyed : Passes.surveys other = .ok others) (started : first setting surveys = .ok wired)
    (restarted : first other others = .ok again)
    (finished : second (inference setting surveys) surveys wired = .ok progress)
    (refinished : second (inference other others) others again = .ok final)
    (owner : key.request = id) :
    progress.wired.wiring.AgreeAt final.wired.wiring key where
  known := by
    rw [knows_of_second_iff surveyed started finished, knows_of_first_iff started,
      knows_of_second_iff resurveyed restarted refinished, knows_of_first_iff restarted]
    exact ⟨parallel.exists_consumer surveyed owner,
      parallel.symm.exists_consumer resurveyed owner⟩
  producer :=
    parallel.alike_of_second surveyed resurveyed started restarted finished refinished owner

end Parallel

/-- Two runs that are the same to the requests of an identity record the same of its keys. -/
theorem agreeAt_of_runs {result another : Result} (ran : run setting = .ok result)
    (reran : run other = .ok another)
    (parallel : ∀ surveys others, Passes.surveys setting = .ok surveys →
      Passes.surveys other = .ok others → Parallel setting other surveys others id)
    (owner : key.request = id) : result.wired.wiring.AgreeAt another.wired.wiring key := by
  obtain ⟨surveys, wired, progress, surveyed, started, finished, built, _⟩ := run_eq_ok ran
  obtain ⟨others, again, final, resurveyed, restarted, refinished, rebuilt, _⟩ := run_eq_ok reran
  rw [built, rebuilt]
  exact (parallel surveys others surveyed resurveyed).agreeAt surveyed resurveyed started
    restarted finished refinished owner

/-! ## One request more -/

/-- A request that offers no response is nothing to the requests of other identities, wherever it
stands. -/
theorem parallel_of_extra {front back : List Request} {extra : Request}
    (split : setting.requests = front ++ back) (silent : extra.response = none)
    (apart : extra.id ≠ id) (surveyed : Passes.surveys setting = .ok surveys)
    (resurveyed : Passes.surveys { setting with requests := front ++ extra :: back } = .ok others) :
    Parallel setting { setting with requests := front ++ extra :: back } surveys others id := by
  rw [Passes.surveys, split] at surveyed
  obtain ⟨before, after, inFront, inBack, rfl⟩ := Outcome.mapM_append_eq_ok_iff.mp surveyed
  obtain ⟨left, rest, atFront, later, rfl⟩ := Outcome.mapM_append_eq_ok_iff.mp resurveyed
  rw [List.mapM_cons] at later
  obtain ⟨survey, done, further⟩ := Outcome.bind_eq_ok_iff.mp later
  obtain ⟨right, atBack, built⟩ := Outcome.bind_eq_ok_iff.mp further
  cases built
  obtain rfl : before = left := Except.ok.inj (inFront.symm.trans atFront)
  obtain rfl : after = right := Except.ok.inj (inBack.symm.trans atBack)
  obtain ⟨owner, offered, supplying, _⟩ := Survey.ofRequest_eq_ok done
  have mute : survey.responses = [] := by
    rw [offered, Survey.responseSlots, silent]
  have foreign : survey.siblings.filter (·.request == id) = [] := by
    rw [List.filter_eq_nil_iff]
    intro slot member same
    rw [supplying] at member
    have inBody := Survey.inBody_of_mem_bodySlots (List.mem_filter.mp member).1
    exact apart (inBody.1.symm.trans (beq_iff_eq.mp same))
  constructor
  · rfl
  · rfl
  · rfl
  · simp only [List.flatMap_append, List.flatMap_cons, mute, List.nil_append]
  · simp only [List.flatMap_append, List.flatMap_cons, List.filter_append, foreign,
      List.nil_append]
  · intro consumers
    have passed : ¬(survey.request = id ∧ survey.consumers = consumers) :=
      fun found => apart (owner.symm.trans found.1)
    simp only [List.mem_append, or_and_right, exists_or, List.exists_mem_cons_iff,
      or_iff_right passed]

end Passes

end ApiWiring
