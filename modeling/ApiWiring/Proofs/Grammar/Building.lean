import ApiWiring.Proofs.Grammar.Course
import ApiWiring.Proofs.Grammar.Substitution

/-!
# When a grammar can be built

What is sent for a parameter depends on the producers of its values, and for bodies on the path of
the request; the dictionary does not matter to it. So a request can be sent or not, whatever was
sent before it (`Sendable`), a grammar can be built when every request can be sent, and what it
sends is determined. Where no value has a producer, a parameter is sent as it is selected.
-/
namespace ApiWiring

/-- The parameters of a kind that a request is sent with. -/
def Request.selected (request : Request) (options : Options) : ParameterKind → List Parameter
  | .path => request.pathParameters
  | .query => request.queryParameters.select options.allDeclared
  | .body => request.bodyParameters.select options.allDeclared

namespace Resolution

variable {source other : Source} {wiring rewired : Wiring}

/-! ## What resolution looks at -/

/-- A tree is resolved alike by sources that have the same producers. -/
theorem tree_congr (owner : other.request = source.request)
    (known : other.requestPath = source.requestPath)
    (same : ∀ path, other.producer? path = source.producer? path) (root : AccessPath)
    (before : PropertyTree) : tree other root before = tree source root before := by
  have sends : other.payload = source.payload := by
    funext path producer
    rw [Source.payload, Source.payload, owner, known]
  induction before using PropertyTree.induction generalizing root with
  | leaf property => simp only [tree, same, sends]
  | inner property children ih =>
    have below : trees other root property children = trees source root property children := by
      rw [trees_eq_mapM, trees_eq_mapM]
      exact Outcome.mapM_congr fun child member => ih child member _
    simp only [tree, same, sends, owner, below]

/-- Where no value has a producer, a tree stays as it is. -/
theorem tree_of_unsupplied (none : ∀ path, source.producer? path = none) (root : AccessPath)
    (before : PropertyTree) : tree source root before = .ok before := by
  induction before using PropertyTree.induction generalizing root with
  | leaf property => simp only [tree, none]
  | inner property children ih =>
    have below : trees source root property children = .ok children := by
      rw [trees_eq_mapM, Outcome.mapM_eq_ok_iff, List.forall₂_same]
      exact fun child member => ih child member _
    simp only [tree, none, below]
    rfl

/-- Where no value has a producer, a parameter is sent as it is. -/
theorem parameter_of_unsupplied (none : ∀ path, source.producer? path = none) (given : Parameter) :
    parameter source given = .ok given := by
  rw [parameter, tree_of_unsupplied none]
  rfl

/-- A parameter is resolved alike by wirings that have the same producers for its kind. -/
theorem parameter_congr {request : RequestId} {place : ParameterKind}
    (same : ∀ path, rewired.producerFor? request place path =
      wiring.producerFor? request place path) (requestPath : Option (List Payload))
    (given : Parameter) : parameter ⟨rewired, request, place, requestPath⟩ given =
      parameter ⟨wiring, request, place, requestPath⟩ given := by
  have resolved : ∀ root before, tree ⟨rewired, request, place, requestPath⟩ root before =
      tree ⟨wiring, request, place, requestPath⟩ root before :=
    tree_congr rfl rfl same
  rw [parameter, resolved]
  rfl

/-- What is sent for a segment does not depend on the dictionary. -/
theorem fst_segmentWith_congr {request : RequestId} {given : Parameter}
    (same : parameter ⟨rewired, request, .path, none⟩ given =
      parameter ⟨wiring, request, .path, none⟩ given) (before after : Dictionary) :
    (segmentWith rewired request after given).1 = (segmentWith wiring request before given).1 := by
  unfold segmentWith attempt
  rw [same]
  cases parameter ⟨wiring, request, .path, none⟩ given with
  | error failure => rfl
  | ok made =>
    dsimp only
    cases made.payload <;> rfl

/-- The parts of a path do not depend on the dictionary, and they are the same where the path
parameters are resolved alike. -/
theorem parts_segmentsWith_congr {request : Request}
    (same : ∀ given ∈ request.pathParameters, parameter ⟨rewired, request.id, .path, none⟩ given =
      parameter ⟨wiring, request.id, .path, none⟩ given) (before after : Dictionary)
    (segments : List String) : (segmentsWith rewired request after segments).parts =
      (segmentsWith wiring request before segments).parts := by
  induction segments generalizing before after with
  | nil => rfl
  | cons segment rest ih =>
    unfold segmentsWith
    split
    · exact congrArg (Except.map _) (ih before after)
    · split
      · exact congrArg (Except.map _) (ih before after)
      · rename_i given found
        have alike := fst_segmentWith_congr (same given (List.mem_of_find?_eq_some found))
          before after
        revert alike
        cases segmentWith rewired request.id after given with
        | mk other later =>
          cases segmentWith wiring request.id before given with
          | mk sent middle =>
            rintro rfl
            cases other with
            | error failure => rfl
            | ok payload => exact congrArg (Except.map _) (ih middle later)

/-- Parameters that are resolved one by one are resolved in turn. -/
theorem parametersWith_succeeds {given : List Parameter}
    (each : ∀ parameter ∈ given, ∃ made, Resolution.parameter source parameter = .ok made)
    (dictionary : Dictionary) :
    ∃ made, parametersWith source dictionary given = .ok made := by
  induction given generalizing dictionary with
  | nil => exact ⟨_, rfl⟩
  | cons first rest ih =>
    obtain ⟨⟨made, resolved⟩, later⟩ := List.forall_mem_cons.mp each
    have taken : parameterWith source dictionary first =
        .ok (made, dictionary.registerAll made.payload.customPayloads) := by
      rw [parameterWith_eq, resolved]
      rfl
    obtain ⟨others, rested⟩ := ih later (dictionary.registerAll made.payload.customPayloads)
    exact ⟨_, Outcome.bind_eq_ok_iff.mpr ⟨_, taken, Outcome.bind_eq_ok_iff.mpr
      ⟨others, rested, rfl⟩⟩⟩

end Resolution

namespace Grammar

open Resolution

variable {wiring : Wiring} {options : Options} {request : Request}

/-- Whether a request can be sent: its path has these parts, and each of its query and body
parameters is resolved where they are known. -/
structure Sendable (wiring : Wiring) (options : Options) (request : Request)
    (parts : List Payload) : Prop where
  /-- The path has the parts, whatever is in the dictionary. -/
  path : ∀ dictionary, (Resolution.path wiring request dictionary).parts = .ok parts
  /-- The query and body parameters are resolved. -/
  resolved : ∀ place, place ≠ .path → ∀ given ∈ request.selected options place,
    ∃ made, parameter ⟨wiring, request.id, place, some parts⟩ given = .ok made

/-- A request that is sent can be sent. -/
theorem Sends.sendable {sent : GrammarRequest} (sends : Sends wiring options request sent) :
    Sendable wiring options request sent.path where
  path dictionary := by
    obtain ⟨before, made⟩ := sends.path
    rw [← made]
    exact parts_segmentsWith_congr (fun _ _ => rfl) _ _ _
  resolved place inTree given member := by
    have query := sends.query
    have body := sends.body
    rw [sends.id] at query body
    cases place with
    | path => exact absurd rfl inTree
    | query =>
      obtain ⟨made, _, resolved⟩ := Outcome.exists_result_of_forall₂ query member
      exact ⟨made, resolved⟩
    | body =>
      obtain ⟨made, _, resolved⟩ := Outcome.exists_result_of_forall₂ body member
      exact ⟨made, resolved⟩

/-- A request that can be sent is taken up. -/
theorem takeUp_succeeds {parts : List Payload} (sendable : Sendable wiring options request parts)
    (progress : Progress) : ∃ next, takeUp wiring options progress request = .ok next := by
  let path := Resolution.path wiring request progress.dictionary
  obtain ⟨⟨query, middle⟩, queried⟩ :=
    parametersWith_succeeds (sendable.resolved .query (by decide)) path.dictionary
  obtain ⟨⟨body, last⟩, bodied⟩ :=
    parametersWith_succeeds (sendable.resolved .body (by decide)) middle
  exact ⟨_, Outcome.bind_eq_ok_iff.mpr ⟨parts, sendable.path _, Outcome.bind_eq_ok_iff.mpr
    ⟨_, queried, Outcome.bind_eq_ok_iff.mpr ⟨_, bodied, rfl⟩⟩⟩⟩

/-- A grammar of requests that can be sent can be built. -/
theorem build_succeeds {requests : List Request} {wired : Wired}
    (each : ∀ request ∈ requests, ∃ parts, Sendable wired.wiring options request parts) :
    ∃ built, build requests options wired = .ok built := by
  have taken : ∀ (progress : Progress) (request : Request), request ∈ requests → True →
      ∃ next, takeUp wired.wiring options progress request = .ok next ∧ True := by
    intro progress request asked _
    obtain ⟨parts, sendable⟩ := each request asked
    obtain ⟨next, taken⟩ := takeUp_succeeds sendable progress
    exact ⟨next, taken, trivial⟩
  obtain ⟨final, folded, _⟩ : ∃ final, requests.foldlM (takeUp wired.wiring options)
      ⟨[], wired.dictionary, []⟩ = .ok final ∧ True :=
    Outcome.foldlM_succeeds (fun _ => True) taken trivial
  exact ⟨_, Outcome.bind_eq_ok_iff.mpr ⟨final, folded, rfl⟩⟩

end Grammar

end ApiWiring
