import ApiWiring.Proofs.Compilation.Rerun
import ApiWiring.Proofs.Wiring.Isolation

/-!
# Requests on their own

A request that offers no response can be put into a compilation or left out of it, and the other
requests do not notice: their consumers have the same producers, but for the case of the names of
dictionary entries. The entries that the request adds to the dictionary are merged only after every
request was answered from the starting one, so no consumer elsewhere gets one of them.
-/
namespace ApiWiring.Compilation

variable {input : Input} {output larger : Output}

/-- An input with other requests. -/
def Input.asking (input : Input) (requests : List Request) : Input := { input with requests }

/-- Put a request that offers no response, of an identity of its own, anywhere among the requests of
an input. If both inputs compile, every value that the other requests need is known to both wirings
and recorded with the same producer, up to the case of the names of dictionary entries; in
particular it has a dictionary entry in both or in neither. -/
theorem requests_are_isolated {front back : List Request} {extra : Request}
    (split : input.requests = front ++ back) (silent : extra.response = none)
    (apart : ∀ request ∈ input.requests, request.id ≠ extra.id) (done : compile input = .ok output)
    (extended : compile (input.asking (front ++ extra :: back)) = .ok larger) :
    ∃ result another, Passes.run (setting input) = .ok result ∧
      Passes.run (setting (input.asking (front ++ extra :: back))) = .ok another ∧
        output.manifest = .ofWiring result.wired.wiring ∧
        larger.manifest = .ofWiring another.wired.wiring ∧
          ∀ request ∈ input.requests, ∀ key, request.Needs input.options key →
            result.wired.wiring.Knows key ∧
              result.wired.wiring.AgreeAt another.wired.wiring key ∧
                ((another.wired.wiring.producerAt? key).any Producer.isDictionary =
                  (result.wired.wiring.producerAt? key).any Producer.isDictionary) := by
  obtain ⟨result, _, ran, _⟩ := compile_eq_ok done
  obtain ⟨another, _, reran, _⟩ := compile_eq_ok extended
  refine ⟨result, another, ran, reran, (reports_of_compile done ran).1,
    (reports_of_compile extended reran).1, fun request asked key needed => ?_⟩
  have owner : key.request = request.id := by cases needed <;> rfl
  have agree : result.wired.wiring.AgreeAt another.wired.wiring key := by
    refine Passes.agreeAt_of_runs ran reran (fun surveys others surveyed resurveyed => ?_) owner
    exact Passes.parallel_of_extra split silent (apart request asked).symm surveyed resurveyed
  have known := (Passes.knows_of_run_iff ran).mpr ⟨request, asked, needed⟩
  exact ⟨known, agree, (Producer.Alike.any_eq agree.producer id).symm⟩

/-! ## A resource created under a key -/

/-- A request that creates a resource by its key, and a search with a query parameter of this name.
-/
def keyedInput : Input where
  requests := [creatingRequest "k", queryRequest "/a"]
  records := []
  dictionary := .empty
  ofEndpoint := .empty
  options := .standard

/-- The path parameter of the creating request of `keyedInput`. -/
def createdKey : ConsumerKey := ⟨(creatingRequest "k").id, .path, "k", ⟨["k"]⟩⟩

/-- The query parameter of the search. -/
def searchedKey : ConsumerKey := ⟨⟨"/a", .get⟩, .query, "k", ⟨["k"]⟩⟩

/-- What is recorded of both keys, of `keyedInput` by itself and behind a request that creates a
resource by a key of another case. -/
theorem producers_of_keyedInput :
    (built? keyedInput).map (fun made =>
        [createdKey, searchedKey].map made.1.wired.wiring.producerAt?) =
      some [some (.dictionary (.uniqueName "k")), none] ∧
    (built? (keyedInput.asking (creatingRequest "K" :: keyedInput.requests))).map (fun made =>
        [createdKey, searchedKey].map made.1.wired.wiring.producerAt?) =
      some [some (.dictionary (.uniqueName "K")), none] := by
  constructor <;> decide +kernel

/-- Behind a request that creates a resource by a key of another case, the requests of `keyedInput`
keep their producers up to the case of the unique name, and the search gets none. -/
theorem keyedInput_requests_are_isolated :
    ∃ output larger result another, compile keyedInput = .ok output ∧
      compile (keyedInput.asking (creatingRequest "K" :: keyedInput.requests)) = .ok larger ∧
        Passes.run (setting keyedInput) = .ok result ∧
          Passes.run (setting (keyedInput.asking (creatingRequest "K" :: keyedInput.requests))) =
            .ok another ∧
          result.wired.wiring.producerAt? createdKey = some (.dictionary (.uniqueName "k")) ∧
            another.wired.wiring.producerAt? createdKey = some (.dictionary (.uniqueName "K")) ∧
              result.wired.wiring.AgreeAt another.wired.wiring createdKey ∧
                another.wired.wiring.producerAt? searchedKey = none := by
  obtain ⟨made, extended⟩ := producers_of_keyedInput
  obtain ⟨⟨result, _⟩, built, read⟩ := Option.map_eq_some_iff.mp made
  obtain ⟨⟨another, _⟩, rebuilt, reread⟩ := Option.map_eq_some_iff.mp extended
  obtain ⟨output, done, ran, _⟩ := compile_of_built? built (by decide)
  obtain ⟨larger, redone, reran, _⟩ := compile_of_built? rebuilt (by decide)
  have split : keyedInput.requests = [] ++ keyedInput.requests := rfl
  have silent : (creatingRequest "K").response = none := rfl
  obtain ⟨one, other, sameRun, sameRerun, _, _, isolated⟩ :=
    requests_are_isolated split silent (by decide) done redone
  obtain rfl : result = one := Except.ok.inj (ran.symm.trans sameRun)
  obtain rfl : another = other := Except.ok.inj (reran.symm.trans sameRerun)
  simp only [List.map_cons, List.map_nil, List.cons.injEq, and_true] at read reread
  have agree := isolated (creatingRequest "k") (.head _) createdKey
    (.path ⟨"k", .leaf (.plain "k" (.ofType .string))⟩ (.head _))
  exact ⟨output, larger, result, another, done, redone, ran, reran, read.1, reread.1, agree.2.1,
    reread.2⟩

end ApiWiring.Compilation
