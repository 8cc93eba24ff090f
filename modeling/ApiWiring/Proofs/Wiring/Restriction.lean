import ApiWiring.Proofs.Keyed.Readings
import ApiWiring.Proofs.Wiring.Isolation

/-!
# Leaving out a kind of parameter

Query parameters or properties of bodies can be left out of the wiring. Nothing else is altered by
that: what is left has its connections, in the same order, with the same producers (`Reduces`). Only
path parameters add to the dictionary in the first pass, and responses are offered whatever is
consumed, so the first pass answers the consumers that are left as before. The second pass is about
bodies alone. With query parameters left out it works through the same pairs; with bodies left out
it has none, and what it would have connected is left out too.
-/
namespace ApiWiring

/-- The options with a kind of parameter left out; path parameters are never left out. -/
def Options.without (options : Options) : ParameterKind → Options
  | .path => options
  | .query => { options with resolveQuery := false }
  | .body => { options with resolveBody := false }

/-- The setting with a kind of parameter left out. -/
def Setting.without (setting : Setting) (kind : ParameterKind) : Setting :=
  { setting with options := setting.options.without kind }

variable {kind : ParameterKind}

/-- Whether a consumer stays when a kind of parameter is left out. -/
def Consumer.Stays (kind : ParameterKind) (consumer : Consumer) : Bool := consumer.kind != kind

/-- A consumer stays when it is of another kind. -/
theorem Consumer.stays_iff {consumer : Consumer} :
    consumer.Stays kind = true ↔ consumer.kind ≠ kind := bne_iff_ne

/-- A consumer does not stay when it is of the kind. -/
theorem Consumer.not_stays_iff {consumer : Consumer} :
    consumer.Stays kind = false ↔ consumer.kind = kind := bne_eq_false_iff_eq

/-- Consumers of one key stay together. -/
theorem Consumer.stays_congr {consumer other : Consumer} (same : consumer.key = other.key) :
    consumer.Stays kind = other.Stays kind :=
  congrArg (· != kind) (congrArg ConsumerKey.kind same)

namespace Wiring

/-- Whether a wiring has the connections of another one that stay when a kind of parameter is left
out, name by name in the same order. -/
def Reduces (kind : ParameterKind) (whole reduced : Wiring) : Prop :=
  ∀ name, reduced.byName.bucket name =
    (whole.byName.bucket name).filter (·.consumer.Stays kind)

/-- From no connections none are left out. -/
theorem reduces_empty : Reduces kind empty empty := fun _ => rfl

/-- What is looked for among connections that stay is found as before. -/
theorem find?_filter_stays {test : Connection → Bool}
    (stays : ∀ connection, test connection = true → connection.consumer.Stays kind = true)
    (list : List Connection) :
    (list.filter (·.consumer.Stays kind)).find? test = list.find? test := by
  rw [List.find?_filter]
  refine List.find?_congr fun connection _ => ?_
  rw [Bool.eq_iff_iff, decide_eq_true_iff]
  exact and_iff_right_of_imp (stays connection)

/-- Exchanging a connection commutes with leaving out others. -/
theorem filter_exchange_of_stays {connection : Connection}
    (stays : connection.consumer.Stays kind = true) (list : List Connection) :
    (exchange connection.consumer.key connection list).filter (·.consumer.Stays kind) =
      exchange connection.consumer.key connection (list.filter (·.consumer.Stays kind)) := by
  induction list with
  | nil => rfl
  | cons first rest ih =>
    by_cases here : first.consumer.key = connection.consumer.key
    · have alike : first.consumer.Stays kind = true := (Consumer.stays_congr here).trans stays
      simp [exchange, here, stays, alike]
    · cases left : first.consumer.Stays kind <;> simp [exchange, here, left, ih]

namespace Reduces

variable {whole reduced next : Wiring} {connection : Connection} {outcome : Outcome}

/-- All connections are those that stay, in the same order. -/
theorem connections (reduces : Reduces kind whole reduced) :
    reduced.connections = whole.connections.filter (·.consumer.Stays kind) :=
  SortedEntries.allValues_eq_filter _ reduces

/-- The connection of a key of another kind is the same. -/
theorem get?_eq (reduces : Reduces kind whole reduced) {key : ConsumerKey}
    (other : key.kind ≠ kind) : reduced.get? key = whole.get? key := by
  rw [get?, get?, reduces]
  refine find?_filter_stays (fun connection own => ?_) _
  have same : connection.consumer.kind = key.kind :=
    congrArg ConsumerKey.kind (beq_iff_eq.mp own)
  rw [Consumer.stays_iff, same]
  exact other

/-- So is its producer. -/
theorem producerAt?_eq (reduces : Reduces kind whole reduced) {key : ConsumerKey}
    (other : key.kind ≠ kind) : reduced.producerAt? key = whole.producerAt? key := by
  rw [producerAt?, producerAt?, reduces.get?_eq other]

/-- Values of another kind have the same producers at their paths. -/
theorem producerFor?_eq (reduces : Reduces kind whole reduced) {place : ParameterKind}
    (other : place ≠ kind) (request : RequestId) (path : AccessPath) :
    reduced.producerFor? request place path = whole.producerFor? request place path := by
  rw [producerFor?, producerFor?]
  congr 1
  funext name
  rw [reduces, find?_filter_stays fun connection own => ?_]
  simp only [Bool.and_eq_true, beq_iff_eq] at own
  rw [Consumer.stays_iff, own.1.1]
  exact other

/-- Values of the kind have no producers. -/
theorem producerFor?_eq_none (reduces : Reduces kind whole reduced) (request : RequestId)
    (path : AccessPath) : reduced.producerFor? request kind path = none := by
  cases found : reduced.producerFor? request kind path with
  | none => rfl
  | some producer =>
    obtain ⟨connection, member, _, own, _⟩ := connection_of_producerFor? found
    rw [reduces.connections, List.mem_filter, Consumer.stays_iff] at member
    exact absurd own member.2

/-! ## Connecting -/

/-- Adding a connection that stays is followed. -/
theorem add (reduces : Reduces kind whole reduced)
    (stays : connection.consumer.Stays kind = true) :
    Reduces kind (whole.add connection) (reduced.add connection) := by
  intro name
  rw [Wiring.add, Wiring.add, SortedEntries.bucket_push, SortedEntries.bucket_push, reduces,
    List.filter_append]
  split <;> simp [stays]

/-- Exchanging a connection that stays is followed. -/
theorem put (reduces : Reduces kind whole reduced)
    (stays : connection.consumer.Stays kind = true) :
    Reduces kind (whole.put connection) (reduced.put connection) := by
  intro name
  rw [Wiring.put, Wiring.put, SortedEntries.bucket_alter, SortedEntries.bucket_alter]
  split
  · rw [filter_exchange_of_stays stays]
    exact congrArg _ (reduces _)
  · exact reduces name

/-- Connecting a consumer that is left out does not show. -/
theorem of_change (reduces : Reduces kind whole reduced)
    (change : whole.Change connection next outcome)
    (gone : connection.consumer.Stays kind = false) : Reduces kind next reduced := by
  intro name
  rw [change.filter_bucket (fun other same => (Consumer.stays_congr same).trans gone)]
  exact reduces name

/-- Connecting a consumer that stays is followed. -/
theorem connect (reduces : Reduces kind whole reduced)
    (stays : connection.consumer.Stays kind = true)
    (done : whole.connect connection = .ok (next, outcome)) :
    ∃ after, reduced.connect connection = .ok (after, outcome) ∧ Reduces kind next after := by
  have same : reduced.get? connection.consumer.key = whole.get? connection.consumer.key :=
    reduces.get?_eq (Consumer.stays_iff.mp stays)
  simp only [Wiring.connect, same]
  simp only [Wiring.connect] at done
  split at done
  · cases done
    exact ⟨_, rfl, reduces.add stays⟩
  · split at done
    · cases done
      exact ⟨_, rfl, reduces⟩
    · cases done
      exact ⟨_, rfl, reduces.put stays⟩
    · split at done
      · rename_i agreed
        cases done
        rw [if_pos agreed]
        exact ⟨_, rfl, reduces⟩
      · cases done

/-- Reconnecting a consumer that stays is followed. -/
theorem reconnect (reduces : Reduces kind whole reduced)
    (stays : connection.consumer.Stays kind = true)
    (done : whole.reconnect connection = .ok (next, outcome)) :
    ∃ after, reduced.reconnect connection = .ok (after, outcome) ∧ Reduces kind next after := by
  have same : reduced.get? connection.consumer.key = whole.get? connection.consumer.key :=
    reduces.get?_eq (Consumer.stays_iff.mp stays)
  have superseding : reduced.supersedes connection = whole.supersedes connection := by
    simp only [supersedes, same]
  rw [Wiring.reconnect] at done ⊢
  rw [superseding]
  split at done
  · rename_i standing
    cases done
    rw [if_pos standing]
    exact ⟨_, rfl, reduces.put stays⟩
  · rename_i standing
    rw [if_neg standing]
    exact reduces.connect stays done

end Reduces

end Wiring

/-! ## Surveys -/

/-- Whether a survey lists what another one does but for the consumers of a kind; the siblings go
with the consumers in bodies. -/
structure Survey.Reduces (kind : ParameterKind) (whole reduced : Survey) : Prop where
  /-- The request is the same. -/
  request : reduced.request = whole.request
  /-- The consumers are those that stay. -/
  consumers : reduced.consumers = whole.consumers.filter (·.Stays kind)
  /-- The responses are the same. -/
  responses : reduced.responses = whole.responses
  /-- The siblings are the same unless bodies are left out. -/
  siblings : kind ≠ .body → reduced.siblings = whole.siblings

namespace Survey

variable {options : Options} {everywhere : List Link} {request : Request} {survey : Survey}

/-- The slots that need a value are those of the kinds that stay. -/
theorem kindedSlots_without (inTree : kind ≠ .path) (pathSlots : List Slot) :
    kindedSlots (options.without kind) request pathSlots =
      (kindedSlots options request pathSlots).filter (·.2 != kind) := by
  have taken : ∀ place : ParameterKind, place ≠ kind → ∀ slots : List Slot,
      (slots.map fun slot => (slot, place)).filter (·.2 != kind) =
        slots.map fun slot => (slot, place) := by
    intro place other slots
    rw [List.filter_eq_self]
    rintro _ member
    obtain ⟨_, _, rfl⟩ := List.mem_map.mp member
    exact bne_iff_ne.mpr other
  have left : ∀ slots : List Slot,
      (slots.map fun slot => (slot, kind)).filter (·.2 != kind) = [] := by
    intro slots
    rw [List.filter_eq_nil_iff]
    rintro _ member
    obtain ⟨_, _, rfl⟩ := List.mem_map.mp member
    simp
  simp only [kindedSlots, List.filter_append]
  cases kind with
  | path => exact absurd rfl inTree
  | query => rw [taken .path (by decide), left, taken .body (by decide)]; rfl
  | body => rw [taken .path (by decide), taken .query (by decide), left]; rfl

/-- A request that has a survey has one with a kind of parameter left out. -/
theorem ofRequest_without (inTree : kind ≠ .path)
    (done : ofRequest options everywhere request = .ok survey) :
    ∃ other, ofRequest (options.without kind) everywhere request = .ok other ∧
      survey.Reduces kind other := by
  obtain ⟨owner, offered, supplying, pathSlots, found, listed⟩ := ofRequest_eq_ok done
  have refound : request.pathParameters.mapM (pathSlot (options.without kind) request.id) =
      .ok pathSlots := by
    rw [← found]
    cases kind <;> rfl
  obtain ⟨other, redone⟩ :
      ∃ other, ofRequest (options.without kind) everywhere request = .ok other :=
    ⟨_, Outcome.bind_eq_ok_iff.mpr ⟨pathSlots, refound, rfl⟩⟩
  obtain ⟨reowner, reoffered, resupplying, others, again, relisted⟩ := ofRequest_eq_ok redone
  obtain rfl : pathSlots = others := Except.ok.inj (refound.symm.trans again)
  refine ⟨other, redone, reowner.trans owner.symm, ?_, ?_, fun stays => ?_⟩
  · rw [relisted, listed, kindedSlots_without inTree, List.filter_map]
    rfl
  · rw [reoffered, offered]
    cases kind <;> rfl
  · rw [resupplying, supplying]
    cases kind with
    | path => rfl
    | query => rfl
    | body => exact absurd rfl stays

end Survey

/-! ## The passes -/

/-- Only for path parameters inference adds to the dictionary. -/
theorem Inference.dictionary_of_find {inference : Inference} {consumer : Consumer}
    (other : consumer.kind ≠ .path) (dictionary : Dictionary) (own : Option Dictionary) :
    (inference.find consumer dictionary own).2 = dictionary := by
  unfold find
  split
  · rfl
  · split
    · rename_i found
      unfold inferred? at found
      split at found
      · cases found
        rfl
      · obtain ⟨name, _, named⟩ := List.exists_of_findSome?_eq_some found
        unfold namedProducer? at named
        split at named
        · rename_i path
          exact absurd path other
        all_goals
          obtain ⟨slot, _, built⟩ := Option.map_eq_some_iff.mp named
          cases built
          rfl
    · rfl

namespace Passes

variable {setting : Setting} {surveys others : List Survey}

/-- The consumers that stay are answered as before, with the same dictionary after them. -/
theorem inferAll_filter_stays (inTree : kind ≠ .path) (inference : Inference)
    (own : Option Dictionary) (start : Dictionary) (consumers : List Consumer) :
    inferAll inference own start (consumers.filter (·.Stays kind)) =
      ((inferAll inference own start consumers).1.filter (·.consumer.Stays kind),
        (inferAll inference own start consumers).2) := by
  induction consumers generalizing start with
  | nil => rfl
  | cons consumer rest ih =>
    cases stays : consumer.Stays kind with
    | true =>
      rw [List.filter_cons_of_pos stays, inferAll_cons, inferAll_cons, ih]
      simp [stays]
    | false =>
      have leaves : (inference.find consumer start own).2 = start := by
        refine Inference.dictionary_of_find ?_ _ _
        rw [Consumer.not_stays_iff.mp stays]
        exact inTree
      rw [List.filter_cons_of_neg (by simp [stays]), inferAll_cons, leaves, ih]
      simp [stays]

/-- Connecting those connections that stay follows connecting all. -/
theorem connectAll_follows {dictionary : Dictionary} {whole reduced final : Wiring}
    {connections : List Connection} (reduces : whole.Reduces kind reduced)
    (done : connectAll dictionary whole connections = .ok final) :
    ∃ after, connectAll dictionary reduced (connections.filter (·.consumer.Stays kind)) =
      .ok after ∧ final.Reduces kind after := by
  refine Outcome.foldlM_filter_follows (Wiring.Reduces kind) _ ?_ ?_ reduces done
  · intro raw _ stays state mirror next follows stepped
    obtain ⟨outcome, connected⟩ := connect_of_step stepped
    rw [← Connection.consumer_respelled raw dictionary] at stays
    obtain ⟨after, reconnected, still⟩ := follows.connect stays connected
    exact ⟨after, Outcome.bind_eq_ok_iff.mpr ⟨_, reconnected, rfl⟩, still⟩
  · intro raw _ gone state mirror next follows stepped
    obtain ⟨outcome, change⟩ := change_of_step stepped
    rw [← Connection.consumer_respelled raw dictionary] at gone
    exact follows.of_change change gone

/-- With query parameters left out the surveys offer the same. -/
theorem inference_without (stays : kind ≠ .body)
    (each : List.Forall₂ (Survey.Reduces kind) surveys others) :
    inference (setting.without kind) others = inference setting surveys := by
  have responses := Outcome.map_eq_of_forall₂ each fun _ _ reduces => reduces.responses.symm
  have siblings := Outcome.map_eq_of_forall₂ each fun _ _ reduces => (reduces.siblings stays).symm
  simp only [inference, List.flatMap_def, responses, siblings]
  cases kind <;> rfl

/-- Whatever is left out, the same producers are found. -/
theorem find_inference_without (each : List.Forall₂ (Survey.Reduces kind) surveys others) :
    (inference (setting.without kind) others).find = (inference setting surveys).find := by
  have responses := Outcome.map_eq_of_forall₂ each fun _ _ reduces => reduces.responses.symm
  refine Inference.find_congr ?_ ?_
  · simp only [inference, Catalog.responses_ofLists, List.flatMap_def, responses]
  · cases kind <;> rfl

/-- The first pass with a kind of parameter left out follows the whole one: the wiring is that of
the consumers that stay, and the dictionary is the same. -/
theorem first_follows (inTree : kind ≠ .path)
    (each : List.Forall₂ (Survey.Reduces kind) surveys others) {wired : Wired}
    (done : first setting surveys = .ok wired) :
    ∃ again, first (setting.without kind) others = .ok again ∧
      wired.wiring.Reduces kind again.wiring ∧ again.dictionary = wired.dictionary := by
  refine Outcome.foldlM_follows (fun whole reduced : Wired =>
    whole.wiring.Reduces kind reduced.wiring ∧ reduced.dictionary = whole.dictionary) ?_
    ⟨Wiring.reduces_empty, rfl⟩ done
  rw [List.forall₂_map_left_iff, List.forall₂_map_right_iff]
  refine each.imp fun survey another reduces => ?_
  rintro state mirror next ⟨follows, same⟩ stepped
  obtain ⟨wiring, connected, built⟩ := Outcome.bind_eq_ok_iff.mp stepped
  cases built
  obtain ⟨after, reconnected, still⟩ := connectAll_follows follows connected
  have answered : inferRequest (setting.without kind) (inference (setting.without kind) others)
      another = ((inferRequest setting (inference setting surveys) survey).1.filter
        (·.consumer.Stays kind), (inferRequest setting (inference setting surveys) survey).2) := by
    rw [inferRequest, inferAll_congr (find_inference_without each), reduces.request,
      reduces.consumers]
    exact inferAll_filter_stays inTree _ _ _ _
  refine ⟨_, Outcome.bind_eq_ok_iff.mpr ⟨after, ?_, rfl⟩, still, ?_⟩
  · rw [answered, same]
    exact reconnected
  · rw [answered, same]

/-- The pairs for a consumer that stays are those made before. -/
theorem siblingConnections_without {early late : Wiring} (reduces : early.Reduces kind late)
    (each : List.Forall₂ (Survey.Reduces kind) surveys others) {consumer : Consumer}
    (stays : consumer.Stays kind = true) :
    siblingConnections (inference (setting.without kind) others) late consumer =
      siblingConnections (inference setting surveys) early consumer := by
  rw [Consumer.stays_iff] at stays
  by_cases body : consumer.kind = .body
  · rw [body] at stays
    rw [inference_without (Ne.symm stays) each]
    have alike : ∀ key : ConsumerKey, key.kind = .body → Option.Rel Producer.Alike
        (early.producerAt? key) (late.producerAt? key) := by
      intro key inBody
      rw [reduces.producerAt?_eq (inBody ▸ stays)]
      cases early.producerAt? key with
      | none => exact .none
      | some producer => exact .some (.same producer)
    exact siblingConnections_congr rfl (alike _ body) fun slot _ => alike _ rfl
  · have none : ∀ {setting : Setting} {surveys : List Survey} {wiring : Wiring},
        siblingConnections (inference setting surveys) wiring consumer = [] := by
      intro setting surveys wiring
      refine List.eq_nil_iff_forall_not_mem.mpr fun raw made => ?_
      exact body (kind_of_mem_siblingConnections made).1
    rw [none, none]

/-- The second pass works through the pairs that stay. -/
theorem pairs_without {early late : Wiring} (reduces : early.Reduces kind late)
    (each : List.Forall₂ (Survey.Reduces kind) surveys others) :
    pairs (setting.without kind) others late =
      (pairs setting surveys early).filter (·.consumer.Stays kind) := by
  let before := siblingConnections (inference setting surveys) early
  -- Both connections of a pair are of the kind of its consumer.
  have parted : ∀ consumers : List Consumer, (consumers.flatMap before).filter
      (·.consumer.Stays kind) = (consumers.filter (·.Stays kind)).flatMap before := by
    intro consumers
    induction consumers with
    | nil => rfl
    | cons consumer rest ih =>
      have alike : ∀ raw ∈ before consumer,
          raw.consumer.Stays kind = consumer.Stays kind := by
        intro raw made
        obtain ⟨own, paired⟩ := kind_of_mem_siblingConnections made
        rw [Consumer.Stays, Consumer.Stays, own, paired]
      rw [List.flatMap_cons, List.filter_append, ih, List.filter_congr alike]
      cases stays : consumer.Stays kind with
      | true => simp [stays]
      | false => simp [stays]
  have made : ∀ survey another : Survey, survey.Reduces kind another →
      (survey.consumers.flatMap before).filter (·.consumer.Stays kind) =
        another.consumers.flatMap
          (siblingConnections (inference (setting.without kind) others) late) := by
    intro survey another follows
    rw [parted, follows.consumers]
    refine List.flatMap_congr fun consumer member => ?_
    exact (siblingConnections_without reduces each (List.mem_filter.mp member).2).symm
  rw [pairs, pairs, List.filter_flatMap, List.flatMap_def, List.flatMap_def]
  exact congrArg _ (Outcome.map_eq_of_forall₂ each made).symm

/-- The second pass with a kind of parameter left out follows the whole one. -/
theorem second_follows (each : List.Forall₂ (Survey.Reduces kind) surveys others)
    {wired again : Wired} (reduces : wired.wiring.Reduces kind again.wiring)
    (same : again.dictionary = wired.dictionary) {progress : Progress}
    (done : second (inference setting surveys) surveys wired = .ok progress) :
    ∃ final, second (inference (setting.without kind) others) others again = .ok final ∧
      progress.wired.wiring.Reduces kind final.wired.wiring := by
  have followed : ∃ final, ((pairs setting surveys wired.wiring).filter
      (·.consumer.Stays kind)).foldlM retake { wired := again, siblingCount := 0 } = .ok final ∧
        progress.wired.wiring.Reduces kind final.wired.wiring ∧
          (kind ≠ .body → final.wired.dictionary = progress.wired.dictionary) := by
    refine Outcome.foldlM_filter_follows (fun whole reduced : Progress =>
      whole.wired.wiring.Reduces kind reduced.wired.wiring ∧
        (kind ≠ .body → reduced.wired.dictionary = whole.wired.dictionary)) _ ?_ ?_
      ⟨reduces, fun _ => same⟩ done
    · rintro raw listed stays state mirror next ⟨follows, alike⟩ stepped
      have inTree : kind ≠ .body := by
        rw [Consumer.stays_iff, kind_of_mem_pairs listed] at stays
        exact Ne.symm stays
      obtain ⟨registering, outcome, connected, _⟩ := retake_eq_ok stepped
      rw [← Connection.consumer_respelled raw state.wired.dictionary] at stays
      obtain ⟨after, reconnected, still⟩ := follows.reconnect stays connected
      rw [← alike inTree] at reconnected
      refine ⟨_, Outcome.bind_eq_ok_iff.mpr ⟨_, reconnected, rfl⟩, still, fun _ => ?_⟩
      rw [registering, alike inTree]
    · rintro raw listed gone state mirror next ⟨follows, _⟩ stepped
      have body : kind = .body := by
        rw [Consumer.not_stays_iff, kind_of_mem_pairs listed] at gone
        exact gone.symm
      obtain ⟨_, outcome, connected, _⟩ := retake_eq_ok stepped
      rw [← Connection.consumer_respelled raw state.wired.dictionary] at gone
      exact ⟨follows.of_change (Wiring.change_of_reconnect connected) gone,
        fun other => absurd body other⟩
  obtain ⟨final, finished, follows, _⟩ := followed
  rw [← pairs_without reduces each] at finished
  exact ⟨final, finished, follows⟩

/-- If the passes succeed, they succeed with query parameters or bodies left out, and the wiring is
that of the consumers that stay. -/
theorem run_without (inTree : kind ≠ .path) {result : Result} (ran : run setting = .ok result) :
    ∃ another, run (setting.without kind) = .ok another ∧
      result.wired.wiring.Reduces kind another.wired.wiring := by
  obtain ⟨surveys, wired, progress, surveyed, started, finished, built, _⟩ := run_eq_ok ran
  obtain ⟨others, resurveyed, each⟩ : ∃ others, Passes.surveys (setting.without kind) =
      .ok others ∧ List.Forall₂ (Survey.Reduces kind) surveys others :=
    Outcome.mapM_follows surveyed fun _ _ _ done => Survey.ofRequest_without inTree done
  obtain ⟨again, restarted, reduces, same⟩ := first_follows inTree each started
  obtain ⟨final, refinished, follows⟩ := second_follows each reduces same finished
  rw [built]
  exact ⟨_, Outcome.bind_eq_ok_iff.mpr ⟨others, resurveyed, Outcome.bind_eq_ok_iff.mpr
    ⟨again, restarted, Outcome.bind_eq_ok_iff.mpr ⟨final, refinished, rfl⟩⟩⟩, follows⟩

end Passes

end ApiWiring
