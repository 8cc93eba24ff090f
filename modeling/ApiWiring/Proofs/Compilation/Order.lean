import ApiWiring.Proofs.Compilation.Producers

/-!
# The order in which paths are read

A path parameter that inference supplies from a response takes its value from a request that
precedes its own. So requests that read each other's responses for their paths never form a circle,
whatever their endpoints are, and the requests of a compilation can be sent one after another.
-/
namespace ApiWiring.Compilation

variable {input : Input} {output : Output}

/-- Whether a path parameter of one request is read from a response of another one, without a link
that asks for it. -/
def ReadsPath (inference : Inference) (wiring : Wiring) (user supplier : RequestId) : Prop :=
  ∃ connection ∈ wiring.connections, ∃ slot, connection.consumer.kind = .path ∧
    connection.producer? = some (.response slot) ∧
      inference.linkedProducer? connection.consumer ≠ some slot ∧
        connection.consumer.slot.request = user ∧ slot.request = supplier

/-- If a compilation succeeds, the request of every response slot that supplies a path parameter
without a link precedes that of the parameter; so no request reads its paths from itself, not even
by way of others. -/
theorem path_reads_precede (done : compile input = .ok output) :
    ∃ surveys result, Passes.surveys (setting input) = .ok surveys ∧
      Passes.run (setting input) = .ok result ∧
        (∀ connection ∈ result.wired.wiring.connections, ∀ slot,
          connection.consumer.kind = .path →
            connection.producer? = some (.response slot) →
              (Passes.inference (setting input) surveys).linkedProducer? connection.consumer ≠
                  some slot →
                slot.request.Precedes connection.consumer.slot.request) ∧
        ∀ request, ¬Relation.TransGen
          (ReadsPath (Passes.inference (setting input) surveys) result.wired.wiring)
          request request := by
  obtain ⟨result, _, ran, _⟩ := compile_eq_ok done
  obtain ⟨surveys, surveyed, found⟩ := Passes.found_of_run ran
  have precedes : ∀ connection ∈ result.wired.wiring.connections, ∀ slot,
      connection.consumer.kind = .path → connection.producer? = some (.response slot) →
        (Passes.inference (setting input) surveys).linkedProducer? connection.consumer ≠
            some slot →
          slot.request.Precedes connection.consumer.slot.request := by
    intro connection member slot kind supplied unasked
    have response := (found connection member slot).1 supplied
    exact response.2.2.precedes unasked kind
  refine ⟨surveys, result, surveyed, ran, precedes, RequestId.not_transGen_self ?_⟩
  rintro user supplier ⟨connection, member, slot, kind, supplied, unasked, rfl, rfl⟩
  exact precedes connection member slot kind supplied unasked

/-- In `nestedInput` the creating request precedes the reading one, which reads its path from it;
and it never reads its own path from the reading one. -/
theorem nestedInput_path_reads_precede :
    ∃ output surveys result, compile nestedInput = .ok output ∧
      Passes.run (setting nestedInput) = .ok result ∧
        createRequest.Precedes readRequest ∧
          ReadsPath (Passes.inference (setting nestedInput) surveys) result.wired.wiring
            readRequest createRequest ∧
          ¬ReadsPath (Passes.inference (setting nestedInput) surveys) result.wired.wiring
            createRequest readRequest := by
  obtain ⟨output, result, compiled, ran, connected⟩ := nestedInput_compiles
  obtain ⟨surveys, other, _, same, precedes, noCycle⟩ := path_reads_precede compiled
  obtain rfl : result = other := Except.ok.inj (ran.symm.trans same)
  have reading : ⟨.plain (inPath readRequest) .path, some (.response (inBody "id" ["id"] .int))⟩ ∈
      result.wired.wiring.connections := by
    rw [connected]
    decide
  have reads : ReadsPath (Passes.inference (setting nestedInput) surveys) result.wired.wiring
      readRequest createRequest :=
    ⟨_, reading, inBody "id" ["id"] .int, rfl, rfl, by simp, rfl, rfl⟩
  have earlier := precedes _ reading _ rfl rfl (by simp)
  refine ⟨output, surveys, result, compiled, ran, earlier, reads, fun back => ?_⟩
  exact noCycle readRequest (.tail (.single reads) back)

end ApiWiring.Compilation
