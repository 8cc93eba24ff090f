import ApiWiring.Proofs.Tree.Visits
import ApiWiring.Proofs.Wiring.Keys
import ApiWiring.Proofs.Wiring.Pairs

/-!
# When consumers do not conflict

A conflict needs two connections for one consumer. Where the requests have different identities and
the parameters of each request and the nodes of their trees are told apart by their names, every
consumer is surveyed once (`nodup_keys`); so the first pass connects each of them anew and cannot
fail, whatever inference answers, and the second pass never fails. What remains is a path parameter
that is not a single value.
-/
namespace ApiWiring

open Passes

/-- Whether the values of a request are told apart by where they are. -/
structure Request.ToldApart (request : Request) (options : Options) : Prop where
  /-- The path parameters have different names. -/
  path : (request.pathParameters.map (·.name)).Nodup
  /-- The query parameters to send have different names. -/
  query : ((request.queryParameters.select options.allDeclared).map (·.name)).Nodup
  /-- The trees of the query parameters tell their nodes apart. -/
  queryTrees : ∀ parameter ∈ request.queryParameters.select options.allDeclared,
    parameter.payload.ToldApart
  /-- At most one body is sent. -/
  body : (request.bodyParameters.select options.allDeclared).length ≤ 1
  /-- The tree of the body tells its nodes apart. -/
  bodyTrees : ∀ parameter ∈ request.bodyParameters.select options.allDeclared,
    parameter.payload.ToldApart

namespace Survey

variable {options : Options} {everywhere : List Link} {request : Request} {survey : Survey}

/-- What is read off the results of a partial function is read off some of its arguments, in their
order. -/
theorem map_filterMap_sublist {α β γ : Type} {make : α → Option β} {ofResult : β → γ}
    {ofMember : α → γ}
    (agrees : ∀ member result, make member = some result → ofResult result = ofMember member)
    (members : List α) :
    ((members.filterMap make).map ofResult).Sublist (members.map ofMember) := by
  induction members with
  | nil => exact .slnil
  | cons member rest ih =>
    cases made : make member with
    | none =>
      rw [List.filterMap_cons_none made]
      exact ih.cons _
    | some result =>
      rw [List.filterMap_cons_some made, List.map_cons, List.map_cons, agrees member result made]
      exact ih.cons_cons _

/-- The paths of the slots of a tree are paths of its visits, in their order. -/
theorem paths_slotsOf_sublist (id : RequestId) (kind : ParameterKind) (tree : PropertyTree)
    (root : AccessPath) (convention : Option NamingConvention) :
    ((slotsOf id kind tree root convention).map (·.accessPath)).Sublist
      ((tree.visits root).map (·.1)) :=
  map_filterMap_sublist (fun _ _ made => (Slot.named_of_ofNode? made).2) _

/-- The slots of a tree that tells its nodes apart have different paths. -/
theorem nodup_paths_slotsOf {tree : PropertyTree} (apart : tree.ToldApart) (id : RequestId)
    (kind : ParameterKind) (root : AccessPath) (convention : Option NamingConvention) :
    ((slotsOf id kind tree root convention).map (·.accessPath)).Nodup :=
  (paths_slotsOf_sublist id kind tree root convention).nodup (apart.nodup_visits root)

/-- The path of a slot of a query parameter begins with the name of the parameter. -/
theorem head_of_mem_slotsOf {id : RequestId} {kind : ParameterKind} {tree : PropertyTree}
    {name : String} {convention : Option NamingConvention} {path : AccessPath}
    (member : path ∈ (slotsOf id kind tree ⟨[name]⟩ convention).map (·.accessPath)) :
    path.parts.head? = some name := by
  obtain ⟨⟨other, node⟩, visited, rfl⟩ :=
    List.mem_map.mp ((paths_slotsOf_sublist _ _ _ _ _).subset member)
  obtain ⟨rest, built⟩ := PropertyTree.prefix_of_mem_visits visited
  rw [← built]
  rfl

/-- The query slots of a request told apart have different paths. -/
theorem nodup_paths_querySlots (apart : request.ToldApart options) :
    ((querySlots options request).map (·.accessPath)).Nodup := by
  unfold querySlots
  split
  · rw [List.map_flatMap, List.nodup_flatMap]
    constructor
    · intro parameter selected
      exact nodup_paths_slotsOf (apart.queryTrees parameter selected) _ _ _ _
    · refine (List.pairwise_map.mp apart.query).imp fun {left right} differ => ?_
      intro path inLeft inRight
      have same := (head_of_mem_slotsOf inLeft).symm.trans (head_of_mem_slotsOf inRight)
      exact differ (Option.some.inj same)
  · exact List.nodup_nil

/-- The body slots of a request told apart have different paths. -/
theorem nodup_paths_bodySlots (apart : request.ToldApart options) :
    ((bodySlots options request).map (·.accessPath)).Nodup := by
  unfold bodySlots
  split
  · have few := apart.body
    have trees := apart.bodyTrees
    match request.bodyParameters.select options.allDeclared, few, trees with
    | [], _, _ => exact List.nodup_nil
    | [parameter], _, trees =>
      rw [List.flatMap_singleton]
      exact nodup_paths_slotsOf (trees parameter (.head _)) _ _ _ _
  · exact List.nodup_nil

/-- The path slots of a request told apart have different paths. -/
theorem nodup_paths_pathSlots (apart : request.ToldApart options) {pathSlots : List Slot}
    (found : request.pathParameters.mapM (pathSlot options request.id) = .ok pathSlots) :
    (pathSlots.map (·.accessPath)).Nodup := by
  have located : request.pathParameters.map (fun parameter => (⟨[parameter.name]⟩ : AccessPath)) =
      pathSlots.map (·.accessPath) := by
    refine Outcome.map_eq_of_forall₂ (Outcome.mapM_eq_ok_iff.mp found) ?_
    intro parameter slot made
    obtain ⟨_, _, rfl⟩ := pathSlot_eq_ok made
    rfl
  rw [← located]
  refine List.Nodup.of_map (·.parts.headD "") ?_
  rw [List.map_map]
  exact apart.path

/-- The keys of slots of one kind differ when their paths do. -/
theorem nodup_keys_of_paths {slots : List Slot} (distinct : (slots.map (·.accessPath)).Nodup)
    (kind : ParameterKind) : (slots.map fun slot => (Consumer.plain slot kind).key).Nodup := by
  refine List.Nodup.of_map (·.path) ?_
  rwa [List.map_map]

/-- The consumers of a request told apart have different keys. -/
theorem nodup_keys (done : ofRequest options everywhere request = .ok survey)
    (apart : request.ToldApart options) : (survey.consumers.map (·.key)).Nodup := by
  obtain ⟨_, _, _, pathSlots, found, listed⟩ := ofRequest_eq_ok done
  have keyed : survey.consumers.map (·.key) =
      pathSlots.map (fun slot => (Consumer.plain slot .path).key) ++
        (querySlots options request).map (fun slot => (Consumer.plain slot .query).key) ++
          (bodySlots options request).map (fun slot => (Consumer.plain slot .body).key) := by
    rw [listed, kindedSlots]
    simp only [List.map_append, List.map_map]
    rfl
  have kinds : ∀ {slots : List Slot} {kind : ParameterKind} {key : ConsumerKey},
      key ∈ slots.map (fun slot => (Consumer.plain slot kind).key) → key.kind = kind := by
    intro slots kind key member
    obtain ⟨slot, _, rfl⟩ := List.mem_map.mp member
    rfl
  rw [keyed, List.nodup_append, List.nodup_append]
  refine ⟨⟨?_, ?_, ?_⟩, ?_, ?_⟩
  · exact nodup_keys_of_paths (nodup_paths_pathSlots apart found) .path
  · exact nodup_keys_of_paths (nodup_paths_querySlots apart) .query
  · rintro left inPath right inQuery rfl
    exact absurd ((kinds inPath).symm.trans (kinds inQuery)) (by decide)
  · exact nodup_keys_of_paths (nodup_paths_bodySlots apart) .body
  · rintro left front right inBody rfl
    rcases List.mem_append.mp front with inPath | inQuery
    · exact absurd ((kinds inPath).symm.trans (kinds inBody)) (by decide)
    · exact absurd ((kinds inQuery).symm.trans (kinds inBody)) (by decide)

end Survey

namespace Passes

variable {setting : Setting} {surveys : List Survey}

/-- Whether no two requests have one identity and the values of each request are told apart. -/
structure ToldApart (setting : Setting) : Prop where
  /-- The identities differ. -/
  identities : (setting.requests.map (·.id)).Nodup
  /-- So do the places of the values of each request. -/
  requests : ∀ request ∈ setting.requests, request.ToldApart setting.options

/-- The keys of all consumers surveyed, survey by survey. -/
def consumerKeys (surveys : List Survey) : List ConsumerKey :=
  surveys.flatMap fun survey => survey.consumers.map (·.key)

/-- Where all values are told apart, every consumer is surveyed once. -/
theorem nodup_consumerKeys (surveyed : Passes.surveys setting = .ok surveys)
    (apart : ToldApart setting) : (consumerKeys surveys).Nodup := by
  have owners : setting.requests.map (·.id) = surveys.map (·.request) :=
    Outcome.map_eq_of_forall₂ (Outcome.mapM_eq_ok_iff.mp surveyed)
      fun request survey done => (Survey.ofRequest_eq_ok done).1.symm
  have owner : ∀ {survey : Survey} {key : ConsumerKey}, survey ∈ surveys →
      key ∈ survey.consumers.map (·.key) → key.request = survey.request := by
    intro survey key listed member
    obtain ⟨consumer, inside, rfl⟩ := List.mem_map.mp member
    obtain ⟨request, _, done⟩ := request_of_mem_surveys surveyed listed
    exact (Survey.consumer_of_ofRequest done inside).1.trans (Survey.ofRequest_eq_ok done).1.symm
  rw [consumerKeys, List.nodup_flatMap]
  constructor
  · intro survey listed
    obtain ⟨request, asked, done⟩ := request_of_mem_surveys surveyed listed
    exact Survey.nodup_keys done (apart.requests request asked)
  · have distinct := apart.identities
    rw [owners] at distinct
    refine (List.pairwise_map.mp distinct).imp_of_mem fun {left right} inLeft inRight differ => ?_
    intro key leftKey rightKey
    exact differ ((owner inLeft leftKey).symm.trans (owner inRight rightKey))

/-- Connecting new consumers, each once, succeeds. -/
theorem connectAll_succeeds (dictionary : Dictionary) {wiring : Wiring}
    {connections : List Connection} (distinct : (connections.map (·.consumer.key)).Nodup)
    (fresh : ∀ key ∈ connections.map (·.consumer.key), ¬wiring.Knows key) :
    ∃ final, connectAll dictionary wiring connections = .ok final := by
  rw [connectAll_eq]
  refine Wiring.connectEach_succeeds ?_ ?_
  · intro connection listed key current attempted there gives
    obtain ⟨raw, inside, rfl⟩ := List.mem_map.mp listed
    obtain ⟨existing, found, _⟩ := Option.bind_eq_some_iff.mp there
    rw [Connection.Gives, Connection.consumer_respelled] at gives
    have known : wiring.Knows raw.consumer.key := by
      rw [gives.1]
      exact Option.isSome_of_eq_some found
    exact absurd known (fresh _ (List.mem_map_of_mem inside))
  · intro left inLeft right inRight
    obtain ⟨first, inFirst, rfl⟩ := List.mem_map.mp inLeft
    obtain ⟨second, inSecond, rfl⟩ := List.mem_map.mp inRight
    rintro ⟨key, current, attempted, ⟨own, given⟩, ⟨ownToo, givenToo⟩, differ⟩
    rw [Connection.consumer_respelled] at own ownToo
    obtain rfl := List.inj_on_of_nodup_map distinct inFirst inSecond (own.trans ownToo.symm)
    exact differ (Option.some.inj (given.symm.trans givenToo))

/-- Taking up requests whose consumers are new, each once, succeeds. -/
theorem foldlM_takeUp_succeeds {inferred : List (List Connection × Dictionary)} {wired : Wired}
    (distinct : (inferred.flatMap fun one => one.1.map (·.consumer.key)).Nodup)
    (fresh : ∀ key ∈ inferred.flatMap fun one => one.1.map (·.consumer.key),
      ¬wired.wiring.Knows key) :
    ∃ final, inferred.foldlM takeUp wired = .ok final := by
  induction inferred generalizing wired with
  | nil => exact ⟨wired, rfl⟩
  | cons one rest ih =>
    rw [List.flatMap_cons, List.nodup_append] at distinct
    obtain ⟨here, others, apart⟩ := distinct
    rw [List.flatMap_cons] at fresh
    let dictionary := (wired.dictionary.mergeMissing one.2).1
    obtain ⟨wiring, connected⟩ := connectAll_succeeds dictionary here
      fun key member => fresh key (List.mem_append_left _ member)
    have still : ∀ key ∈ rest.flatMap fun one => one.1.map (·.consumer.key),
        ¬wiring.Knows key := by
      intro key later known
      rcases (knows_of_connectAll_iff connected).mp known with before | ⟨raw, inside, rfl⟩
      · exact fresh key (List.mem_append_right _ later) before
      · exact apart _ (List.mem_map_of_mem inside) _ later rfl
    obtain ⟨final, rested⟩ : ∃ final, rest.foldlM takeUp ⟨wiring, dictionary⟩ = .ok final :=
      ih others still
    refine ⟨final, ?_⟩
    rw [List.foldlM_cons]
    exact Outcome.bind_eq_ok_iff.mpr
      ⟨_, Outcome.bind_eq_ok_iff.mpr ⟨wiring, connected, rfl⟩, rested⟩

/-- Where every consumer is surveyed once, the first pass succeeds. -/
theorem first_succeeds (distinct : (consumerKeys surveys).Nodup) :
    ∃ wired, first setting surveys = .ok wired := by
  have keyed : ((surveys.map (inferRequest setting (inference setting surveys))).flatMap
      fun one => one.1.map (·.consumer.key)) = consumerKeys surveys := by
    rw [consumerKeys, List.flatMap_map]
    congr 1
    funext survey
    conv_rhs => rw [← consumers_inferAll (inference setting surveys)
      (setting.ofEndpoint.get? survey.request.endpoint) setting.dictionary survey.consumers]
    rw [List.map_map]
    rfl
  refine foldlM_takeUp_succeeds ?_ fun _ _ => Wiring.not_knows_empty
  rwa [keyed]

/-- Where every consumer is surveyed once, both passes succeed. -/
theorem run_succeeds (surveyed : Passes.surveys setting = .ok surveys)
    (distinct : (consumerKeys surveys).Nodup) : ∃ result, run setting = .ok result := by
  obtain ⟨wired, started⟩ : ∃ wired, first setting surveys = .ok wired := first_succeeds distinct
  obtain ⟨progress, finished⟩ := second_succeeds surveyed wired
  exact ⟨_, Outcome.bind_eq_ok_iff.mpr ⟨surveys, surveyed, Outcome.bind_eq_ok_iff.mpr
    ⟨wired, started, Outcome.bind_eq_ok_iff.mpr ⟨progress, finished, rfl⟩⟩⟩⟩

/-- Surveying fails for no other reason than a path parameter that is not a single value. -/
theorem surveys_eq_error {failure : Failure} (failed : Passes.surveys setting = .error failure) :
    ∃ request ∈ setting.requests, ∃ parameter ∈ request.pathParameters, ∃ property children,
      parameter.payload = .inner property children ∧
        failure = .unsupportedPathParameter request.id parameter.name := by
  obtain ⟨request, asked, stopped⟩ := Outcome.exists_of_mapM_eq_error failed
  rcases Outcome.bind_eq_error_iff.mp stopped with first | ⟨_, _, built⟩
  · obtain ⟨parameter, declared, refused⟩ := Outcome.exists_of_mapM_eq_error first
    refine ⟨request, asked, parameter, declared, ?_⟩
    unfold Survey.pathSlot at refused
    split at refused
    · cases refused
    · rename_i property children shaped
      cases refused
      exact ⟨property, children, shaped, rfl⟩
  · cases built

/-- Surveying succeeds when every path parameter is a single value, and then only. -/
theorem surveys_succeed_iff : (∃ surveys, Passes.surveys setting = .ok surveys) ↔
    ∀ request ∈ setting.requests, ∀ parameter ∈ request.pathParameters,
      ∃ property, parameter.payload = .leaf property := by
  constructor
  · rintro ⟨surveys, surveyed⟩ request asked parameter declared
    obtain ⟨survey, _, done⟩ := survey_of_mem_requests surveyed asked
    obtain ⟨_, _, _, pathSlots, found, _⟩ := Survey.ofRequest_eq_ok done
    obtain ⟨slot, _, made⟩ :=
      Outcome.exists_result_of_forall₂ (Outcome.mapM_eq_ok_iff.mp found) declared
    obtain ⟨property, shaped, _⟩ := Survey.pathSlot_eq_ok made
    exact ⟨property, shaped⟩
  · intro single
    cases surveyed : Passes.surveys setting with
    | ok surveys => exact ⟨surveys, rfl⟩
    | error failure =>
      obtain ⟨request, asked, parameter, declared, property, children, shaped, _⟩ :=
        surveys_eq_error surveyed
      obtain ⟨other, leaf⟩ := single request asked parameter declared
      rw [shaped] at leaf
      cases leaf

/-- Connecting fails for no other reason than a second producer. -/
theorem connect_eq_error {wiring : Wiring} {connection : Connection} {failure : Failure}
    (failed : wiring.connect connection = .error failure) :
    ∃ current attempted,
      failure = .conflictingProducers connection.consumer.key current attempted := by
  unfold Wiring.connect at failed
  dsimp only at failed
  split at failed
  · cases failed
  · split at failed
    · cases failed
    · cases failed
    · split at failed
      · cases failed
      · cases failed
        exact ⟨_, _, rfl⟩

/-- The first pass fails for no other reason than a second producer. -/
theorem first_eq_error {failure : Failure} (failed : first setting surveys = .error failure) :
    ∃ key current attempted, failure = .conflictingProducers key current attempted := by
  obtain ⟨wired, inferred, _, stopped⟩ := Outcome.exists_of_foldlM_eq_error failed
  rcases Outcome.bind_eq_error_iff.mp stopped with connecting | ⟨_, _, built⟩
  · obtain ⟨wiring, raw, _, step⟩ := Outcome.exists_of_foldlM_eq_error connecting
    rcases Outcome.bind_eq_error_iff.mp step with refused | ⟨_, _, built⟩
    · exact ⟨_, connect_eq_error refused⟩
    · cases built
  · cases built

/-- The passes fail in surveying, or for a second producer after it. -/
theorem run_eq_error {failure : Failure} (failed : run setting = .error failure) :
    Passes.surveys setting = .error failure ∨
      (∃ surveys, Passes.surveys setting = .ok surveys) ∧
        ∃ key current attempted, failure = .conflictingProducers key current attempted := by
  rcases Outcome.bind_eq_error_iff.mp failed with unsurveyed | ⟨surveys, surveyed, later⟩
  · exact .inl unsurveyed
  · refine .inr ⟨⟨surveys, surveyed⟩, ?_⟩
    rcases Outcome.bind_eq_error_iff.mp later with stopped | ⟨wired, _, last⟩
    · exact first_eq_error stopped
    · rcases Outcome.bind_eq_error_iff.mp last with stopped | ⟨_, _, built⟩
      · obtain ⟨progress, finished⟩ := second_succeeds surveyed wired
        rw [finished] at stopped
        cases stopped
      · cases built

/-- Where no two requests have one identity and the values of each request are told apart, the
passes never stop at two producers for one consumer, whatever links, dictionaries and options there
are: they succeed if every path parameter is a single value. -/
theorem run_never_conflicts (apart : ToldApart setting) :
    (∀ key current attempted, run setting ≠ .error (.conflictingProducers key current attempted)) ∧
      ((∃ result, run setting = .ok result) ↔
        ∀ request ∈ setting.requests, ∀ parameter ∈ request.pathParameters,
          ∃ property, parameter.payload = .leaf property) := by
  have succeeds : ∀ {surveys}, Passes.surveys setting = .ok surveys →
      ∃ result, run setting = .ok result :=
    fun surveyed => run_succeeds surveyed (nodup_consumerKeys surveyed apart)
  rw [← surveys_succeed_iff]
  refine ⟨fun key current attempted failed => ?_, ?_, ?_⟩
  · rcases Outcome.bind_eq_error_iff.mp failed with unsurveyed | ⟨surveys, surveyed, _⟩
    · obtain ⟨_, _, _, _, _, _, _, other⟩ := surveys_eq_error unsurveyed
      cases other
    · obtain ⟨result, ran⟩ := succeeds surveyed
      rw [ran] at failed
      cases failed
  · rintro ⟨result, ran⟩
    obtain ⟨surveys, _, _, surveyed, _⟩ := run_eq_ok ran
    exact ⟨surveys, surveyed⟩
  · rintro ⟨surveys, surveyed⟩
    exact succeeds surveyed

/-! ## A pair in one body -/

/-- A creating request with a query parameter, whose body has a resource around another one of its
type. -/
def pairSetting : Setting where
  requests := [
    { id := ⟨"/t", .post⟩
      pathParameters := []
      queryParameters := ⟨[⟨"q", .leaf (.plain "q" (.ofType .string))⟩], none⟩
      bodyParameters := ⟨[⟨"b", .inner ⟨"", none, .object, true, false⟩
        [.inner ⟨"t", none, .object, true, false⟩
          [.leaf (.plain "name" (.ofType .string)),
            .inner ⟨"t", none, .object, true, false⟩
              [.leaf (.plain "id" (.ofType .string))]]]⟩], none⟩
      response := none
      links := [] }]
  everywhere := []
  dictionary := .empty
  ofEndpoint := .empty
  options := .standard

/-- The passes of `pairSetting` succeed, the second of them with a pair. -/
theorem pairSetting_run_never_conflicts : ToldApart pairSetting ∧
    (∀ key current attempted,
      run pairSetting ≠ .error (.conflictingProducers key current attempted)) ∧
      ∃ result, run pairSetting = .ok result := by
  have apart : ToldApart pairSetting := by
    refine ⟨by decide, fun request asked => ?_⟩
    obtain rfl := List.mem_singleton.mp asked
    refine ⟨by decide, by decide, ?_, by decide, ?_⟩
    · intro parameter selected
      obtain rfl := List.mem_singleton.mp selected
      exact PropertyTree.toldApart_leaf _
    · intro parameter selected
      obtain rfl := List.mem_singleton.mp selected
      simp [PropertyTree.toldApart_inner_iff, PropertyTree.toldApart_leaf,
        PropertyTree.SiblingsApart, PropertyTree.name, PropertyTree.node, PropertyNode.name,
        LeafProperty.plain]
  obtain ⟨never, succeeds⟩ := run_never_conflicts apart
  refine ⟨apart, never, succeeds.mpr fun request asked parameter declared => ?_⟩
  obtain rfl := List.mem_singleton.mp asked
  exact absurd declared List.not_mem_nil

end Passes

end ApiWiring
