import ApiWiring.Proofs.Compilation.Course
import ApiWiring.Proofs.Grammar.Failing
import ApiWiring.Proofs.Wiring.Conflicts
import ApiWiring.Proofs.Wiring.Producers

/-!
# Why a compilation fails

Every failure has its cause in what was compiled (`Cause`): a path parameter that is not a single
value stops the surveys, a second producer the first pass, an array that cannot be replaced the
grammar, and a section of the dictionary without a canonical text the fingerprint. What resolution
checks besides cannot happen: only values of bodies are supplied from their own body, and a path
parameter that was surveyed is a single value and stays one.
-/
namespace ApiWiring

/-- Whether a wiring records a producer for the value at a path of a parameter kind. -/
def Wiring.Records (wiring : Wiring) (request : RequestId) (kind : ParameterKind)
    (path : AccessPath) : Prop :=
  ∃ connection ∈ wiring.connections, connection.consumer.slot.request = request ∧
    connection.consumer.kind = kind ∧ connection.consumer.slot.accessPath = path ∧
      connection.producer?.isSome

namespace Passes

variable {setting : Setting} {result : Result}

/-- A query parameter or a body has the producers that the finished wiring records for it. -/
theorem isSome_producerFor?_iff (ran : run setting = .ok result) {kind : ParameterKind}
    (inTree : kind ≠ .path) {request : RequestId} {path : AccessPath} :
    (result.wired.wiring.producerFor? request kind path).isSome ↔
      result.wired.wiring.Records request kind path := by
  constructor
  · intro present
    obtain ⟨producer, found⟩ := Option.isSome_iff_exists.mp present
    obtain ⟨connection, member, owner, placed, located, supplied⟩ :=
      Wiring.connection_of_producerFor? found
    exact ⟨connection, member, owner, placed, located, by rw [supplied]; rfl⟩
  · rintro ⟨connection, member, rfl, rfl, rfl, present⟩
    have filed := filed_of_run ran
    have found := filed.get?_of_mem member
    have named : connection.consumer.slot.accessPath.resourceName? =
        some connection.consumer.slot.name := by
      obtain ⟨request, _, needed⟩ :=
        (knows_of_run_iff ran).mp (Option.isSome_of_eq_some found)
      exact AccessPath.resourceName?_eq_some_iff.mpr (needed.endsIn inTree)
    have supplied : result.wired.wiring.producerAt? connection.consumer.key =
        connection.producer? := by
      rw [Wiring.producerAt?, found]
      rfl
    rw [filed.producerFor?_eq, named, Option.bind_some]
    exact supplied ▸ present

/-- No path parameter is supplied from a body. -/
theorem producerFor?_path_ne_sibling (ran : run setting = .ok result) (request : RequestId)
    (path : AccessPath) (slot : Slot) :
    result.wired.wiring.producerFor? request .path path ≠ some (.sibling slot) := by
  intro found
  obtain ⟨connection, member, _, placed, _, supplied⟩ := Wiring.connection_of_producerFor? found
  obtain ⟨surveys, _, origins⟩ := found_of_run ran
  have sought := (origins connection member slot).2 supplied
  have body := (listed_of_sibling? sought).1
  rw [placed] at body
  cases body

end Passes

namespace Compilation

open Resolution

variable {input : Input}

/-- Whether a query parameter or a body that is selected has an array with a recorded producer, none
being recorded above it, and a number of forms of item other than one. -/
inductive Input.Stuck (input : Input) (wiring : Wiring) : RequestId → AccessPath → Nat → Prop where
  /-- The array at a position of the tree. -/
  | array (request : Request) (asked : request ∈ input.requests) (place : ParameterKind)
    (inTree : place ≠ .path) (given : Parameter)
    (selected : given ∈ request.selected input.options place) (position : List Nat)
    (property : InnerProperty) (children : List PropertyTree)
    (found : given.payload.subtree? position = some (.inner property children))
    (array : property.shape = .array) (several : children.length ≠ 1)
    (recorded : wiring.Records request.id place
      (given.payload.pathTo (rootOf place given.name) position))
    (first : ∀ above, above <+: position → above ≠ position →
      ¬wiring.Records request.id place (given.payload.pathTo (rootOf place given.name) above)) :
    Stuck input wiring request.id (given.payload.pathTo (rootOf place given.name) position)
      children.length

/-- What a failure of a compilation comes from. -/
inductive Cause (input : Input) : Failure → Prop where
  /-- A path parameter is not a single value. -/
  | path (request : Request) (asked : request ∈ input.requests) (parameter : Parameter)
    (declared : parameter ∈ request.pathParameters) (property : InnerProperty)
    (children : List PropertyTree) (shaped : parameter.payload = .inner property children) :
    Cause input (.unsupportedPathParameter request.id parameter.name)
  /-- The requests are surveyed, and a consumer gets a second producer. -/
  | conflict (surveys : List Survey) (surveyed : Passes.surveys (setting input) = .ok surveys)
    (key : ConsumerKey) (current attempted : Producer) :
    Cause input (.conflictingProducers key current attempted)
  /-- The requests are wired, and an array that is supplied has not exactly one form of item. -/
  | cardinality (result : Passes.Result) (ran : Passes.run (setting input) = .ok result)
    (request : RequestId) (path : AccessPath) (count : Nat)
    (stuck : input.Stuck result.wired.wiring request path count) :
    Cause input (.itemCardinality request path count)
  /-- The requests are wired, and a section of the dictionary has no canonical text. -/
  | canonical (result : Passes.Result) (ran : Passes.run (setting input) = .ok result) :
    Cause input .noCanonicalText

/-- The arrays that are recorded first are those that are supplied first. -/
theorem suppliedFirst_iff {result : Passes.Result} (ran : Passes.run (setting input) = .ok result)
    {request : RequestId} {place : ParameterKind} (inTree : place ≠ .path)
    (parts : Option (List Payload)) {root : AccessPath} {tree : PropertyTree}
    {position : List Nat} (found : (tree.subtree? position).isSome) :
    SuppliedFirst ⟨result.wired.wiring, request, place, parts⟩ root tree position ↔
      result.wired.wiring.Records request place (tree.pathTo root position) ∧
        ∀ above, above <+: position → above ≠ position →
          ¬result.wired.wiring.Records request place (tree.pathTo root above) := by
  have supplied : ∀ {above : List Nat}, above <+: position →
      (Supplied ⟨result.wired.wiring, request, place, parts⟩ root tree above ↔
        result.wired.wiring.Records request place (tree.pathTo root above)) := by
    intro above leading
    rw [Supplied, ← Passes.isSome_producerFor?_iff ran inTree]
    exact and_iff_right (PropertyTree.isSome_subtree?_of_prefix leading found)
  rw [SuppliedFirst, supplied List.prefix_rfl]
  refine and_congr_right fun _ => forall_congr' fun above => ?_
  refine forall_congr' fun leading => ?_
  rw [supplied leading]

/-- If the requests are wired, every path has its parts. -/
theorem paths_succeed {result : Passes.Result} (ran : Passes.run (setting input) = .ok result) :
    ∀ request ∈ input.requests, ∃ parts, ∀ dictionary,
      (Resolution.path result.wired.wiring request dictionary).parts = .ok parts := by
  obtain ⟨surveys, _, _, surveyed, _⟩ := Passes.run_eq_ok ran
  intro request asked
  exact path_succeeds (Passes.surveys_succeed_iff.mp ⟨surveys, surveyed⟩ request asked)
    (Passes.producerFor?_path_ne_sibling ran request.id)

/-- If the requests are wired, the failure of the grammar is that of an array that is stuck. -/
theorem stuck_of_build_eq_error {result : Passes.Result}
    (ran : Passes.run (setting input) = .ok result) {failure : Failure}
    (failed : Grammar.build input.requests input.options result.wired = .error failure) :
    ∃ request path count, input.Stuck result.wired.wiring request path count ∧
      failure = .itemCardinality request path count := by
  obtain ⟨request, asked, place, inTree, given, selected, parts, refused⟩ :=
    Grammar.exists_of_build_eq_error (paths_succeed ran) failed
  obtain ⟨position, count, ⟨first, property, children, found, array, several, rfl⟩, rfl⟩ :=
    unfitAt_of_tree_eq_error rfl refused
  obtain ⟨recorded, above⟩ :=
    (suppliedFirst_iff ran inTree _ (Option.isSome_of_eq_some found)).mp first
  exact ⟨_, _, _, .array request asked place inTree given selected position property children found
    array several recorded above, rfl⟩

/-- Where an array is stuck, no grammar is built. -/
theorem build_ne_ok_of_stuck {result : Passes.Result}
    (ran : Passes.run (setting input) = .ok result) {id : RequestId} {path : AccessPath}
    {count : Nat} (stuck : input.Stuck result.wired.wiring id path count)
    {built : Grammar × Dictionary × List Warning} :
    Grammar.build input.requests input.options result.wired ≠ .ok built := by
  obtain ⟨request, asked, place, inTree, given, selected, position, property, children, found,
    array, several, recorded, first⟩ := stuck
  have unfit : ∀ parts, UnfitAt ⟨result.wired.wiring, request.id, place, some parts⟩
      (rootOf place given.name) given.payload position children.length := by
    intro parts
    refine ⟨(suppliedFirst_iff ran inTree _ ?_).mpr ⟨recorded, first⟩, property, children, found,
      array, several, rfl⟩
    exact Option.isSome_of_eq_some found
  exact Grammar.build_ne_ok_of_unfitAt asked inTree selected unfit

/-- Every failure of a compilation has its cause. -/
theorem cause_of_compile_eq_error {failure : Failure} (failed : compile input = .error failure) :
    Cause input failure := by
  rcases Outcome.bind_eq_error_iff.mp failed with running | ⟨result, ran, afterRun⟩
  · rcases Passes.run_eq_error running with
      unsurveyed | ⟨⟨surveys, surveyed⟩, key, current, attempted, rfl⟩
    · obtain ⟨request, asked, parameter, declared, property, children, shaped, rfl⟩ :=
        Passes.surveys_eq_error unsurveyed
      exact .path request asked parameter declared property children shaped
    · exact .conflict surveys surveyed key current attempted
  · rcases Outcome.bind_eq_error_iff.mp afterRun with building | ⟨_, _, afterBuild⟩
    · obtain ⟨request, path, count, stuck, rfl⟩ := stuck_of_build_eq_error ran building
      exact .cardinality result ran request path count stuck
    · rcases Outcome.bind_eq_error_iff.mp afterBuild with stopped | ⟨_, _, built⟩
      · unfold fingerprint at stopped
        split at stopped
        · cases stopped
        · cases stopped
          exact .canonical result ran
      · cases built

/-- A compilation fails for a path parameter that is not a single value exactly when a request
declares one. -/
theorem unsupportedPathParameter_iff :
    (∃ request name, compile input = .error (.unsupportedPathParameter request name)) ↔
      ∃ request ∈ input.requests, ∃ parameter ∈ request.pathParameters, ∃ property children,
        parameter.payload = .inner property children := by
  constructor
  · rintro ⟨id, name, failed⟩
    cases cause_of_compile_eq_error failed with
    | path request asked parameter declared property children shaped =>
      exact ⟨request, asked, parameter, declared, property, children, shaped⟩
  · rintro ⟨request, asked, parameter, declared, property, children, shaped⟩
    cases surveyed : Passes.surveys (setting input) with
    | ok surveys =>
      obtain ⟨other, leaf⟩ :=
        Passes.surveys_succeed_iff.mp ⟨surveys, surveyed⟩ request asked parameter declared
      rw [shaped] at leaf
      cases leaf
    | error failure =>
      obtain ⟨owner, _, refused, _, _, _, _, rfl⟩ := Passes.surveys_eq_error surveyed
      refine ⟨owner.id, refused.name, Outcome.bind_eq_error_iff.mpr (.inl ?_)⟩
      exact Outcome.bind_eq_error_iff.mpr (.inl surveyed)

/-- A compilation that fails for the items of an array names one that is stuck. -/
theorem stuck_of_itemCardinality {result : Passes.Result}
    (ran : Passes.run (setting input) = .ok result) {request : RequestId} {path : AccessPath}
    {count : Nat} (failed : compile input = .error (.itemCardinality request path count)) :
    input.Stuck result.wired.wiring request path count := by
  cases cause_of_compile_eq_error failed with
  | cardinality other reran _ _ _ stuck =>
    obtain rfl : result = other := Except.ok.inj (ran.symm.trans reran)
    exact stuck

/-- Where an array is stuck, the compilation fails for the items of an array. -/
theorem itemCardinality_of_stuck {result : Passes.Result}
    (ran : Passes.run (setting input) = .ok result) {request : RequestId} {path : AccessPath}
    {count : Nat} (stuck : input.Stuck result.wired.wiring request path count) :
    ∃ request path count, compile input = .error (.itemCardinality request path count) := by
  cases built : Grammar.build input.requests input.options result.wired with
  | ok made => exact absurd built (build_ne_ok_of_stuck ran stuck)
  | error failure =>
    obtain ⟨owner, array, items, _, rfl⟩ := stuck_of_build_eq_error ran built
    exact ⟨owner, array, items, Outcome.bind_eq_error_iff.mpr
      (.inr ⟨result, ran, Outcome.bind_eq_error_iff.mpr (.inl built)⟩)⟩

/-- A compilation never lacks the path of a request. It fails for a path parameter that is not a
single value exactly when a request declares one; and if the requests are wired, every path has its
parts, whatever is in the dictionary. Then the compilation fails for the number of forms of item of
an array exactly when such an array is stuck, and the failure names a stuck one. -/
theorem failures_have_causes (input : Input) :
    (∀ request path, compile input ≠ .error (.missingPath request path)) ∧
      ((∃ request name, compile input = .error (.unsupportedPathParameter request name)) ↔
        ∃ request ∈ input.requests, ∃ parameter ∈ request.pathParameters, ∃ property children,
          parameter.payload = .inner property children) ∧
      ∀ result, Passes.run (setting input) = .ok result →
        (∀ request ∈ input.requests, ∃ parts, ∀ dictionary,
          (Resolution.path result.wired.wiring request dictionary).parts = .ok parts) ∧
        (∀ request path count, compile input = .error (.itemCardinality request path count) →
          input.Stuck result.wired.wiring request path count) ∧
        ((∃ request path count, compile input = .error (.itemCardinality request path count)) ↔
          ∃ request path count, input.Stuck result.wired.wiring request path count) := by
  refine ⟨fun request path failed => ?_, unsupportedPathParameter_iff, fun result ran =>
    ⟨paths_succeed ran, fun _ _ _ => stuck_of_itemCardinality ran, ?_, ?_⟩⟩
  · cases cause_of_compile_eq_error failed
  · rintro ⟨request, path, count, failed⟩
    exact ⟨request, path, count, stuck_of_itemCardinality ran failed⟩
  · rintro ⟨request, path, count, stuck⟩
    exact itemCardinality_of_stuck ran stuck

/-! ## A list with two forms of item -/

/-- The request of `listInput`. -/
def listRequest : Request where
  id := ⟨"/c", .post⟩
  pathParameters := []
  queryParameters := .empty
  bodyParameters := ⟨[⟨"b", .inner ⟨"", none, .object, true, false⟩
    [.inner ⟨"tags", none, .array, true, false⟩
      [.leaf (.plain "" (.ofType .string)), .leaf (.plain "" (.ofType .int))]]⟩], none⟩
  response := none
  links := []

/-- A request whose body has a list with two forms of item; the dictionary has a value for the list.
-/
def listInput : Input where
  requests := [listRequest]
  records := []
  dictionary := { Dictionary.empty with custom := .ofList [("tags", ["x"])] }
  ofEndpoint := .empty
  options := .standard

/-- The list of `listInput` in its body. -/
def listConsumer : Consumer :=
  .plain ⟨listRequest.id, "tags", .body ⟨["tags"]⟩, none, .object⟩ .body

/-- What is wired of `listInput`. -/
theorem connections_listInput :
    (Passes.run (setting listInput)).toOption.map (·.wired.wiring.connections) =
      some [⟨listConsumer, some (.dictionary ⟨.string, .object, "tags", true⟩)⟩] := by
  decide +kernel

/-- The list of `listInput` is stuck, and the compilation fails for it. -/
theorem listInput_failures_have_causes : ∃ result, Passes.run (setting listInput) = .ok result ∧
    listInput.Stuck result.wired.wiring listRequest.id ⟨["tags"]⟩ 2 ∧
      ∃ request path count, compile listInput = .error (.itemCardinality request path count) := by
  obtain ⟨result, made, connected⟩ := Option.map_eq_some_iff.mp connections_listInput
  have ran := Outcome.ok_of_toOption made
  have recorded : result.wired.wiring.Records listRequest.id .body ⟨["tags"]⟩ := by
    rw [Wiring.Records, connected]
    decide
  have above : ¬result.wired.wiring.Records listRequest.id .body .root := by
    rw [Wiring.Records, connected]
    decide
  have stuck : listInput.Stuck result.wired.wiring listRequest.id ⟨["tags"]⟩ 2 := by
    refine .array listRequest (.head _) .body (by decide) _ (.head _) [0] _ _ rfl rfl (by decide)
      recorded fun upper leading different => ?_
    cases upper with
    | nil => exact above
    | cons index rest =>
      obtain ⟨rfl, deeper⟩ := List.cons_prefix_cons.mp leading
      rw [List.prefix_nil.mp deeper] at different
      exact absurd rfl different
  exact ⟨result, ran, stuck, ((failures_have_causes listInput).2.2 result ran).2.2.mpr
    ⟨_, _, _, stuck⟩⟩

end Compilation

end ApiWiring
