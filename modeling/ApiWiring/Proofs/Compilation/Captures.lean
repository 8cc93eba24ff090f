import ApiWiring.Proofs.Compilation.Course
import ApiWiring.Proofs.Grammar.Captures
import ApiWiring.Proofs.Grammar.Reads
import ApiWiring.Proofs.Wiring.Responses

/-!
# What is read is kept

Kept values are read where the wiring is put into the parameters, and they are written where a
response is taken apart. The two walks over the wiring agree: what a request reads some other
request keeps, under the same variable and with the same type. That the types agree rests on the
wiring speaking of one value by one slot, since of the slots with one path only the first is kept.
-/
namespace ApiWiring

/-- Whether no parameter of a request sends a value kept from an earlier response. -/
def Request.IsFresh (request : Request) : Prop :=
  ∀ parameter ∈ request.parameters, parameter.payload.dynamicObjects = []

/-- Whether a request keeps a value of its response under the variable and with the type of an
object. -/
def GrammarRequest.Keeps (writer : GrammarRequest) (object : DynamicObject) : Prop :=
  ∃ capture ∈ writer.captures,
    capture.variableName = object.variableName ∧ capture.type = object.type

namespace Compilation

variable {input : Input} {output : Output}

/-- Every response producer of a finished wiring is kept by its request. -/
theorem captureOf_mem_captures {setting : Setting} {result : Passes.Result}
    (ran : Passes.run setting = .ok result) {connection : Connection} {slot : Slot}
    (connected : connection ∈ result.wired.wiring.connections)
    (supplied : connection.producer? = some (.response slot)) :
    Grammar.captureOf slot ∈ Grammar.captures result.wired.wiring slot.request := by
  obtain ⟨supplier, among, same⟩ := Grammar.exists_supplier connected supplied rfl
  obtain ⟨⟨other, member, supplies⟩, owner⟩ := Grammar.supplies_of_mem_suppliers among
  have single : supplier = slot :=
    Passes.response_unique_of_run ran member connected supplies supplied owner same
  rw [single] at among
  exact Grammar.mem_captures_iff.mpr ⟨slot, among, rfl⟩

/-- If a compilation succeeds and no parameter sent a kept value before, every kept value that a
request reads is kept by a request of another identity, under the same variable and with the same
type. Where the identities are distinct, every request keeps its values in strictly ascending order
of their paths, and these are the paths of the response producers that the wiring takes from it. -/
theorem reads_are_kept (done : compile input = .ok output) :
    ((∀ request ∈ input.requests, request.IsFresh) →
      ∀ reader ∈ output.grammar.requests, ∀ object ∈ reader.dynamicObjects,
        ∃ writer ∈ output.grammar.requests, writer.id ≠ reader.id ∧ writer.Keeps object) ∧
    ∃ result, Passes.run (setting input) = .ok result ∧
      ((input.requests.map (·.id)).Nodup → ∀ keeper ∈ output.grammar.requests,
        keeper.captures.Pairwise (fun left right => left.path.parts < right.path.parts) ∧
          ∀ path, path ∈ keeper.captures.map (·.path) ↔
            ∃ connection ∈ result.wired.wiring.connections, ∃ slot,
              connection.producer? = some (.response slot) ∧ slot.request = keeper.id ∧
                slot.accessPath = path) := by
  obtain ⟨result, warnings, ran, built⟩ := compile_eq_ok done
  obtain ⟨each, _, keeps⟩ := Grammar.build_eq_ok built
  refine ⟨fun fresh reader member object read => ?_, result, ran, fun distinct keeper member => ?_⟩
  · obtain ⟨request, asked, sends⟩ := Outcome.exists_member_of_forall₂ each member
    rcases Resolution.sourced_of_sends sends read with
      ⟨given, listed, sent⟩ | ⟨kind, path, slot, found, rfl⟩
    · rw [fresh request asked given listed] at sent
      exact absurd sent List.not_mem_nil
    · obtain ⟨connection, connected, user, _, _, supplied⟩ :=
        Wiring.connection_of_producerFor? found
      obtain ⟨foreign, producer, among, owner⟩ := Passes.foreign_of_run ran connected supplied
      obtain ⟨sent, inGrammar, made⟩ := Outcome.exists_result_of_forall₂ each among
      obtain ⟨writer, written, same, kept⟩ := Grammar.exists_keeper keeps inGrammar
      have identity : writer.id = slot.request := by
        rw [same, made.id, owner]
      refine ⟨writer, written, ?_, Grammar.captureOf slot, ?_, rfl, rfl⟩
      · rw [identity, sends.id, ← user]
        exact foreign
      · rw [kept, ← same, identity]
        exact captureOf_mem_captures ran connected supplied
  · rw [← Grammar.ids_eq_of_sends each] at distinct
    have kept := Grammar.captures_eq_of_nodup keeps distinct member
    rw [kept]
    exact ⟨Grammar.ascending_captures _ _, fun path => Grammar.mem_paths_captures_iff⟩

/-- A post is created, and read by the identity that its creation answers with. -/
def postInput : Input where
  requests := [
    { id := ⟨"/posts", .post⟩
      pathParameters := []
      queryParameters := .empty
      bodyParameters := .empty
      response := some (.inner ⟨"", none, .object, true, false⟩
        [.leaf (.plain "id" (.ofType .int))])
      links := [] },
    { id := ⟨"/posts/\x7bpostId\x7d", .get⟩
      pathParameters := [⟨"postId", .leaf (.plain "postId" (.ofType .string))⟩]
      queryParameters := .empty
      bodyParameters := .empty
      response := none
      links := [] }]
  records := []
  dictionary := .empty
  ofEndpoint := .empty
  options := .standard

/-- Reading a post reads what creating it keeps, with the type of the response. -/
theorem postInput_reads_are_kept :
    ∃ output, compile postInput = .ok output ∧
      (output.grammar.requests.flatMap (·.dynamicObjects)).map (·.type) = [.int] ∧
        (∀ reader ∈ output.grammar.requests, ∀ object ∈ reader.dynamicObjects,
          ∃ writer ∈ output.grammar.requests, writer.id ≠ reader.id ∧ writer.Keeps object) ∧
            ∀ keeper ∈ output.grammar.requests,
              keeper.captures.Pairwise fun left right => left.path.parts < right.path.parts := by
  have computed : (compile postInput).toOption.map (fun output =>
      (output.grammar.requests.flatMap (·.dynamicObjects)).map (·.type)) = some [.int] := by
    decide +kernel
  obtain ⟨output, present, types⟩ := Option.map_eq_some_iff.mp computed
  have done := Outcome.ok_of_toOption present
  have fresh : ∀ request ∈ postInput.requests, request.IsFresh := by
    simp only [Request.IsFresh]
    decide
  have distinct : (postInput.requests.map (·.id)).Nodup := by decide
  obtain ⟨reads, result, _, keeps⟩ := reads_are_kept done
  exact ⟨output, done, types, reads fresh, fun keeper member => (keeps distinct keeper member).1⟩

end Compilation

end ApiWiring
