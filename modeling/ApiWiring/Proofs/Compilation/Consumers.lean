import ApiWiring.Proofs.Compilation.Producers
import ApiWiring.Proofs.Report.Manifest
import ApiWiring.Proofs.Wiring.Keys

/-!
# Consumers of a compilation

No consumer is lost on its way from the requests to the reports and none comes up twice: the
finished wiring has one connection for each value that a request needs, the manifest one line for
each connection, and the counts are those of the lines.
-/
namespace ApiWiring.Compilation

variable {input : Input} {output : Output}

/-- Whether a summary counts the lines of a manifest. -/
structure Summary.Counts (summary : Summary) (manifest : Manifest) : Prop where
  /-- The consumers are the lines. -/
  consumers : summary.consumers = manifest.lines.length
  /-- Every consumer either has a producer or none. -/
  parted : summary.consumers = summary.resolved + summary.unresolved
  /-- The consumers with a producer are the resolved lines. -/
  resolved : summary.resolved = manifest.lines.countP (·.entry.isResolved)
  /-- The consumers supplied from their own body are the lines of that kind. -/
  siblings : summary.siblings =
    manifest.lines.countP fun line => line.entry.producerKind == some .sameBody

/-- The summary of a compilation counts the lines of its manifest. -/
theorem counts_of_compile {result : Passes.Result} (done : compile input = .ok output)
    (ran : Passes.run (setting input) = .ok result)
    (counted : result.siblingCount =
      result.wired.wiring.connections.countP Connection.bySibling) :
    output.summary.Counts output.manifest := by
  let connections := result.wired.wiring.connections
  obtain ⟨manifest, consumers, resolved, unresolved, siblings⟩ := reports_of_compile done ran
  have lists : output.manifest.Lists result.wired.wiring := by
    rw [manifest]
    exact Manifest.lists_ofWiring _
  have listed : output.manifest.lines.length = connections.length := by
    have same := lists.complete.length_eq
    rwa [List.length_map] at same
  have parted : connections.length = connections.countP (·.producer?.isSome) +
      connections.countP (·.producer?.isNone) := by
    have counted := List.length_eq_countP_add_countP (·.producer?.isSome) (l := connections)
    rw [counted]
    congr 2
    funext connection
    cases connection.producer? <;> rfl
  constructor
  · rw [consumers, listed]
  · rw [consumers, resolved, unresolved]
    exact parted
  · rw [resolved, lists.countP_lines]
    exact ManifestEntry.isResolved_ofConnection
  · rw [siblings, counted, lists.countP_lines]
    exact ManifestEntry.producerKind_ofConnection_eq_sameBody

/-- If a compilation succeeds, the keys of the finished wiring are those of the consumers surveyed,
which are the values that the requests need, each of them once; and the second pass adds none. The
manifest lists the connections, and the summary counts its lines. -/
theorem consumers_are_reported (done : compile input = .ok output) :
    ∃ surveys early result, Passes.surveys (setting input) = .ok surveys ∧
      Passes.first (setting input) surveys = .ok early ∧
        Passes.run (setting input) = .ok result ∧
          result.wired.wiring.keys.Nodup ∧
          (∀ key, key ∈ result.wired.wiring.keys ↔
            ∃ survey ∈ surveys, ∃ consumer ∈ survey.consumers, consumer.key = key) ∧
          (∀ key, key ∈ result.wired.wiring.keys ↔
            ∃ request ∈ input.requests, request.Needs input.options key) ∧
          early.wiring.keys.Perm result.wired.wiring.keys ∧
          output.manifest.Lists result.wired.wiring ∧
          output.summary.Counts output.manifest := by
  obtain ⟨result, _, ran, _⟩ := compile_eq_ok done
  obtain ⟨surveys, early, surveyed, started, distinct, same, known, counted⟩ :=
    Passes.keys_of_run ran
  have needed : ∀ key, key ∈ result.wired.wiring.keys ↔
      ∃ request ∈ input.requests, request.Needs input.options key := by
    intro key
    rw [known key]
    exact Passes.exists_consumer_iff surveyed
  have manifest := (reports_of_compile done ran).1
  refine ⟨surveys, early, result, surveyed, started, ran, distinct, known, needed, same, ?_, ?_⟩
  · rw [manifest]
    exact Manifest.lists_ofWiring _
  · exact counts_of_compile done ran counted

/-- The six values that the requests of `nestedInput` need are reported: four have a producer, and
one of these is supplied from its own body. -/
theorem nestedInput_consumers_are_reported :
    ∃ output, compile nestedInput = .ok output ∧ output.manifest.lines.length = 6 ∧
      output.summary.consumers = 6 ∧ output.summary.resolved = 4 ∧
        output.summary.unresolved = 2 ∧ output.summary.siblings = 1 ∧
          ∃ request ∈ nestedInput.requests,
            request.Needs .standard ⟨createRequest, .body, "id", ⟨["t", "t", "id"]⟩⟩ := by
  obtain ⟨output, result, compiled, ran, connected⟩ := nestedInput_compiles
  obtain ⟨surveys, early, other, _, _, same, _, _, needed, _, lists, counts⟩ :=
    consumers_are_reported compiled
  obtain rfl : result = other := Except.ok.inj (ran.symm.trans same)
  have listed : output.manifest.lines.length = 6 := by
    rw [lists.complete.length_eq, connected]
    rfl
  have resolved : output.summary.resolved = 4 := by
    rw [counts.resolved, lists.complete.countP_eq, connected]
    rfl
  have siblings : output.summary.siblings = 1 := by
    rw [counts.siblings, lists.complete.countP_eq, connected]
    rfl
  have consumers : output.summary.consumers = 6 := counts.consumers.trans listed
  have unresolved : output.summary.unresolved = 2 := by
    have parted := counts.parted
    omega
  refine ⟨output, compiled, listed, consumers, resolved, unresolved, siblings, ?_⟩
  apply (needed _).mp
  rw [Wiring.keys, connected]
  decide

end ApiWiring.Compilation
