import ApiWiring.Proofs.Compilation.Course
import ApiWiring.Proofs.Wiring.Producers

/-!
# Producers of a compilation

By whatever rule a producer came into the wiring, it is one that may be there: a response slot
belongs to another request and is offered by one of those compiled, and unless a link asks for it
its request may supply the consumer's; a property of the same body is a sibling of its consumer.
-/
namespace ApiWiring.Compilation

variable {input : Input} {output : Output}

/-- If a compilation succeeds, every response slot that supplies a consumer belongs to another
request and is a named node of the response of one of the requests; and it is valid for the
consumer, unless the consumer's link asks for it. Every property of the same body that supplies a
consumer is a sibling of it and is sent by one of the requests. -/
theorem producers_are_valid (done : compile input = .ok output) :
    ∃ surveys result, Passes.surveys (setting input) = .ok surveys ∧
      Passes.run (setting input) = .ok result ∧
        ∀ connection ∈ result.wired.wiring.connections, ∀ slot,
          (connection.producer? = some (.response slot) →
            slot.request ≠ connection.consumer.slot.request ∧
            (∃ request ∈ input.requests, request.Offers input.options.convention slot) ∧
            ((Passes.inference (setting input) surveys).linkedProducer? connection.consumer ≠
                some slot →
              isValidProducer input.options.allowGet slot connection.consumer = true ∧
              slot.request.MaySupply input.options.allowGet connection.consumer.slot.request)) ∧
          (connection.producer? = some (.sibling slot) →
            slot.IsSiblingOf connection.consumer ∧
            ∃ request ∈ input.requests, request.Sends input.options slot) := by
  obtain ⟨result, _, ran, _⟩ := compile_eq_ok done
  obtain ⟨surveys, surveyed, found⟩ := Passes.found_of_run ran
  refine ⟨surveys, result, surveyed, ran, fun connection member slot => ⟨?_, ?_⟩⟩
  · intro supplied
    obtain ⟨offered, foreign, route⟩ := (found connection member slot).1 supplied
    refine ⟨foreign, Passes.offered_of_mem_responses surveyed offered, fun unasked => ?_⟩
    have supplies : slot.request.MaySupply input.options.allowGet
        connection.consumer.slot.request := route.supplies unasked
    exact ⟨isValidProducer_iff.mpr supplies, supplies⟩
  · intro supplied
    have sought := (found connection member slot).2 supplied
    exact Passes.isSiblingOf_of_sibling? surveyed sought

/-! ## A resource around another one -/

/-- The request of `nestedInput` that creates the resource. -/
def createRequest : RequestId := ⟨"/t/\x7bk\x7d", .put⟩

/-- The request of `nestedInput` that reads it. -/
def readRequest : RequestId := ⟨"/t/\x7bk\x7d", .get⟩

/-- The path parameter of both requests. -/
def keyParameter : Parameter := ⟨"k", .leaf (.plain "k" (.ofType .string))⟩

/-- A resource is created around another one of its type, under a name that the user gives, and is
read by the identity that its creation answers with. -/
def nestedInput : Input where
  requests := [
    { id := createRequest
      pathParameters := [keyParameter]
      queryParameters := .empty
      bodyParameters := ⟨[⟨"b", .inner ⟨"", none, .object, true, false⟩
        [.inner ⟨"t", none, .object, true, false⟩
          [.leaf (.plain "name" (.ofType .string)),
            .inner ⟨"t", none, .object, true, false⟩
              [.leaf (.plain "id" (.ofType .string))]]]⟩], none⟩
      response := some (.inner ⟨"", none, .object, true, false⟩
        [.leaf (.plain "id" (.ofType .int))])
      links := [] },
    { id := readRequest
      pathParameters := [keyParameter]
      queryParameters := .empty
      bodyParameters := .empty
      response := none
      links := [] }]
  records := []
  dictionary := .empty
  ofEndpoint := .empty
  options := .standard

/-- A property of the body of `nestedInput`. -/
def inBody (name : String) (path : List String) (type : PrimitiveType) : Slot :=
  ⟨createRequest, name, .body ⟨path⟩, none, type⟩

/-- The path parameter as a slot of one of the requests. -/
def inPath (request : RequestId) : Slot := ⟨request, "k", .path ["t"], none, .string⟩

/-- The wiring of `nestedInput`: the inner identity is supplied by the outer name, the path that
reads by the response, the other names by the dictionary. -/
def nestedConnections : List Connection := [
  ⟨.plain (inBody "id" ["t", "t", "id"] .string) .body,
    some (.sibling (inBody "name" ["t", "name"] .string))⟩,
  ⟨.plain (inPath createRequest) .path, some (.dictionary (.uniqueName "k"))⟩,
  ⟨.plain (inPath readRequest) .path, some (.response (inBody "id" ["id"] .int))⟩,
  ⟨.plain (inBody "name" ["t", "name"] .string) .body,
    some (.dictionary (.uniqueName "t_name"))⟩,
  ⟨.plain (inBody "t" ["t"] .object) .body, none⟩,
  ⟨.plain (inBody "t" ["t", "t"] .object) .body, none⟩]

/-- What compiling `nestedInput` gives. -/
theorem nestedInput_compiles :
    ∃ output result, compile nestedInput = .ok output ∧
      Passes.run (setting nestedInput) = .ok result ∧
        result.wired.wiring.connections = nestedConnections := by
  exact compile_of_computed (fun result _ => result.wired.wiring.connections)
    (by decide +kernel) (by decide)

/-- In `nestedInput` the creating request may supply the reading one, and the outer name is a
sibling of the inner identity. -/
theorem nestedInput_producers_are_valid :
    ∃ output result, compile nestedInput = .ok output ∧
      Passes.run (setting nestedInput) = .ok result ∧
        result.wired.wiring.connections = nestedConnections ∧
          createRequest.MaySupply false readRequest ∧
            (inBody "name" ["t", "name"] .string).IsSiblingOf
              (.plain (inBody "id" ["t", "t", "id"] .string) .body) := by
  obtain ⟨output, result, compiled, ran, connected⟩ := nestedInput_compiles
  obtain ⟨surveys, other, _, same, valid⟩ := producers_are_valid compiled
  obtain rfl : result = other := Except.ok.inj (ran.symm.trans same)
  rw [connected] at valid
  have reading : ⟨.plain (inPath readRequest) .path, some (.response (inBody "id" ["id"] .int))⟩ ∈
      nestedConnections := by decide
  have naming : ⟨.plain (inBody "id" ["t", "t", "id"] .string) .body,
      some (.sibling (inBody "name" ["t", "name"] .string))⟩ ∈ nestedConnections := by decide
  have response := (valid _ reading _).1 rfl
  have supplies := response.2.2 (by simp)
  have sibling := (valid _ naming _).2 rfl
  exact ⟨output, result, compiled, ran, connected, supplies.2, sibling.1⟩

end ApiWiring.Compilation
