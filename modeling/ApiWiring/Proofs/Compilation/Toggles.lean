import ApiWiring.Proofs.Compilation.Producers
import ApiWiring.Proofs.Grammar.Building
import ApiWiring.Proofs.Report.Groups
import ApiWiring.Proofs.Wiring.Restriction

/-!
# Compiling with a kind of parameter left out

Query parameters and bodies can be left out of what is inferred. A compilation that succeeds still
does then: the manifest loses the lines of the kind and keeps all others in their order, the paths
and the other parameters are sent as before, and the parameters left out are sent as they were
selected.
-/
namespace ApiWiring

variable {kind : ParameterKind}

/-- The query or body parameters of a request as it is sent; its path is sent part by part. -/
def GrammarRequest.parameters (sent : GrammarRequest) : ParameterKind → List Parameter
  | .path => []
  | .query => sent.queryParameters
  | .body => sent.bodyParameters

/-- Whether a request is sent like another one but for the parameters of a kind. -/
structure GrammarRequest.AgreesApartFrom (kind : ParameterKind) (sent other : GrammarRequest) :
    Prop where
  /-- The identity is the same. -/
  id : other.id = sent.id
  /-- The path is the same, part by part. -/
  path : other.path = sent.path
  /-- The parameters of the other kinds are the same. -/
  parameters : ∀ place ≠ kind, other.parameters place = sent.parameters place

namespace Grammar

open Resolution

variable {whole reduced : Wiring} {options : Options} {request : Request}
  {sent other : GrammarRequest}

/-- The parameters sent are those selected, resolved in their order. -/
theorem Sends.parameters_eq {wiring : Wiring} (sends : Sends wiring options request sent)
    {place : ParameterKind} (inTree : place ≠ .path) :
    (request.selected options place).mapM
      (parameter ⟨wiring, request.id, place, some sent.path⟩) = .ok (sent.parameters place) := by
  rw [Outcome.mapM_eq_ok_iff, ← sends.id]
  cases place with
  | path => exact absurd rfl inTree
  | query => exact sends.query
  | body => exact sends.body

/-- With a kind of parameter left out the same parameters are selected. -/
theorem selected_without (place : ParameterKind) :
    request.selected (options.without kind) place = request.selected options place := by
  cases place <;> cases kind <;> rfl

/-- Values of another kind are resolved as before. -/
theorem parameter_without (reduces : whole.Reduces kind reduced) {place : ParameterKind}
    (different : place ≠ kind) (id : RequestId) (parts : Option (List Payload)) :
    parameter ⟨reduced, id, place, parts⟩ = parameter ⟨whole, id, place, parts⟩ :=
  funext fun given => parameter_congr (reduces.producerFor?_eq different id) parts given

/-- Values of the kind stay as they are. -/
theorem parameter_left_out (reduces : whole.Reduces kind reduced) (id : RequestId)
    (parts : Option (List Payload)) (given : Parameter) :
    parameter ⟨reduced, id, kind, parts⟩ given = .ok given := by
  refine parameter_of_unsupplied (fun path => ?_) given
  exact reduces.producerFor?_eq_none id path

/-- A request that is sent can be sent with a kind of parameter left out, by the same path. -/
theorem Sends.sendable_without (sends : Sends whole options request sent) (inTree : kind ≠ .path)
    (reduces : whole.Reduces kind reduced) :
    Sendable reduced (options.without kind) request sent.path where
  path dictionary := by
    rw [← sends.sendable.path dictionary]
    refine parts_segmentsWith_congr (fun given _ => ?_) _ _ _
    rw [parameter_without reduces (Ne.symm inTree)]
  resolved place ofTree given member := by
    by_cases own : place = kind
    · subst own
      exact ⟨given, parameter_left_out reduces _ _ _⟩
    · rw [parameter_without reduces own]
      rw [selected_without] at member
      exact sends.sendable.resolved place ofTree given member

/-- With a kind of parameter left out a request is sent as before but for the parameters of this
kind. -/
theorem Sends.agreesApartFrom (sends : Sends whole options request sent) (inTree : kind ≠ .path)
    (reduces : whole.Reduces kind reduced)
    (resends : Sends reduced (options.without kind) request other) :
    sent.AgreesApartFrom kind other := by
  have path : other.path = sent.path := by
    have before := resends.sendable.path .empty
    have after := (sends.sendable_without inTree reduces).path .empty
    exact Except.ok.inj (before.symm.trans after)
  refine ⟨resends.id.trans sends.id.symm, path, fun place different => ?_⟩
  by_cases ofTree : place = .path
  · subst ofTree
    rfl
  · have again := resends.parameters_eq ofTree
    rw [selected_without, path, parameter_without reduces different,
      sends.parameters_eq ofTree] at again
    exact (Except.ok.inj again).symm

/-- With a kind of parameter left out the parameters of this kind are sent as they are selected. -/
theorem Sends.parameters_left_out (inTree : kind ≠ .path) (reduces : whole.Reduces kind reduced)
    (resends : Sends reduced (options.without kind) request other) :
    other.parameters kind = request.selected options kind := by
  have again := resends.parameters_eq inTree
  have kept : (request.selected options kind).mapM
      (parameter ⟨reduced, request.id, kind, some other.path⟩) =
        .ok (request.selected options kind) := by
    rw [Outcome.mapM_eq_ok_iff, List.forall₂_same]
    exact fun given _ => parameter_left_out reduces _ _ given
  rw [selected_without, kept] at again
  exact (Except.ok.inj again).symm

end Grammar

namespace Compilation

variable {input : Input} {output : Output}

/-- The input with a kind of parameter left out. -/
def Input.without (input : Input) (kind : ParameterKind) : Input :=
  { input with options := input.options.without kind }

/-- Leaving out a kind of parameter twice is leaving it out. -/
theorem Input.without_without (input : Input) (kind : ParameterKind) :
    (input.without kind).without kind = input.without kind := by
  cases kind <;> rfl

/-- Where a compilation succeeds, it succeeds with a kind of parameter left out, and its requests
are sent by the reduced wiring. -/
theorem exists_reduced (inTree : kind ≠ .path) (done : compile input = .ok output) :
    ∃ reduced result another, compile (input.without kind) = .ok reduced ∧
      Passes.run (setting input) = .ok result ∧
        Passes.run (setting (input.without kind)) = .ok another ∧
          result.wired.wiring.Reduces kind another.wired.wiring ∧
            List.Forall₂ (Grammar.Sends result.wired.wiring input.options) input.requests
              output.grammar.requests ∧
            List.Forall₂ (Grammar.Sends another.wired.wiring (input.options.without kind))
              input.requests reduced.grammar.requests := by
  obtain ⟨result, _, ran, built⟩ := compile_eq_ok done
  obtain ⟨another, reran, reduces⟩ := Passes.run_without inTree ran
  obtain ⟨each, _, _⟩ := Grammar.build_eq_ok built
  have sendable : ∀ request ∈ input.requests, ∃ parts,
      Grammar.Sendable another.wired.wiring (input.options.without kind) request parts := by
    intro request asked
    obtain ⟨sent, _, sends⟩ := Outcome.exists_result_of_forall₂ each asked
    exact ⟨sent.path, sends.sendable_without inTree reduces⟩
  obtain ⟨⟨grammar, dictionary, warnings⟩, rebuilt⟩ := Grammar.build_succeeds sendable
  have canonical := canonical_of_compile done
  obtain ⟨reduced, redone, sameGrammar, _⟩ :
      ∃ reduced, compile (input.without kind) = .ok reduced ∧ reduced.grammar = grammar ∧
        reduced.dictionary = dictionary :=
    compile_of_build reran rebuilt canonical
  refine ⟨reduced, result, another, redone, ran, reran, reduces, each, ?_⟩
  rw [sameGrammar]
  exact (Grammar.build_eq_ok rebuilt).1

/-- Leave out query parameters or bodies. A compilation that succeeds still succeeds; its manifest
has the lines of the other kinds, in the same order, and no others; and every request is sent with
the same path and the same parameters of the other kind. Parameters of a kind left out are sent as
they are selected. -/
theorem toggles_remove (input : Input) (inTree : kind ≠ .path) :
    (∀ output, compile input = .ok output → ∃ reduced,
      compile (input.without kind) = .ok reduced ∧
        reduced.manifest.lines = output.manifest.lines.filter (·.kind != label kind) ∧
          List.Forall₂ (GrammarRequest.AgreesApartFrom kind) output.grammar.requests
            reduced.grammar.requests) ∧
      ∀ reduced, compile (input.without kind) = .ok reduced →
        List.Forall₂ (fun request sent =>
          sent.parameters kind = request.selected input.options kind) input.requests
          reduced.grammar.requests := by
  constructor
  · intro output done
    obtain ⟨reduced, result, another, redone, ran, reran, reduces, each, again⟩ :=
      exists_reduced inTree done
    refine ⟨reduced, redone, ?_, ?_⟩
    · rw [(reports_of_compile redone reran).1, (reports_of_compile done ran).1]
      exact Manifest.lines_ofWiring_filter reduces.connections
    · exact Outcome.forall₂_of_common each again
        fun request _ sent other sends resends => sends.agreesApartFrom inTree reduces resends
  · intro reduced redone
    -- What has no parameters of the kind does not change when they are left out.
    obtain ⟨other, _, another, same, _, _, reduces, _, again⟩ := exists_reduced inTree redone
    rw [Input.without_without, redone] at same
    obtain rfl : reduced = other := Except.ok.inj same
    refine again.imp fun request sent resends => ?_
    rw [← Grammar.selected_without kind]
    exact resends.parameters_left_out inTree reduces

/-- Without bodies the manifest of `nestedInput` has two of its six lines, and the body of the
creating request is sent as it is selected. -/
theorem nestedInput_toggles_remove : ParameterKind.body ≠ .path ∧
    ∃ output reduced, compile nestedInput = .ok output ∧
      compile (nestedInput.without .body) = .ok reduced ∧ output.manifest.lines.length = 6 ∧
        reduced.manifest.lines.length = 2 ∧
          List.Forall₂ (GrammarRequest.AgreesApartFrom .body) output.grammar.requests
            reduced.grammar.requests ∧
          reduced.grammar.requests.map (·.parameters .body) =
            nestedInput.requests.map (·.selected nestedInput.options .body) := by
  have inTree : ParameterKind.body ≠ .path := by decide
  obtain ⟨output, result, done, ran, connected⟩ := nestedInput_compiles
  obtain ⟨removes, selected⟩ := toggles_remove nestedInput inTree
  obtain ⟨reduced, redone, lines, agree⟩ := removes output done
  have listed : output.manifest.lines.Perm (nestedConnections.map Manifest.Line.ofConnection) := by
    rw [(reports_of_compile done ran).1, ← connected]
    exact (Manifest.lists_ofWiring _).complete
  refine ⟨inTree, output, reduced, done, redone, ?_, ?_, agree, ?_⟩
  · rw [listed.length_eq]
    rfl
  · rw [lines, (listed.filter _).length_eq]
    decide
  · exact (Outcome.map_eq_of_forall₂ (selected reduced redone) fun _ _ same => same.symm).symm

end Compilation

end ApiWiring
