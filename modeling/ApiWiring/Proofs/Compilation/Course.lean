import ApiWiring.Compilation
import ApiWiring.Proofs.Grammar.Course
import ApiWiring.Proofs.Report.Fingerprint
import ApiWiring.Proofs.Wiring.Origins

/-!
# The course of a compilation

A compilation that succeeds has wired the requests and built the grammar from the finished wiring;
and where both are done only a section of the dictionary without a canonical text can stop it. From
its first to its last step the dictionary grows.
-/
namespace ApiWiring.Compilation

variable {input : Input} {output : Output} {result : Passes.Result}

/-- The steps of a compilation that succeeds. -/
theorem compile_eq_ok (done : compile input = .ok output) :
    ∃ result warnings, Passes.run (setting input) = .ok result ∧
      Grammar.build input.requests input.options result.wired =
        .ok (output.grammar, output.dictionary, warnings) := by
  obtain ⟨result, ran, afterRun⟩ := Outcome.bind_eq_ok_iff.mp done
  obtain ⟨⟨grammar, dictionary, warnings⟩, made, afterBuild⟩ := Outcome.bind_eq_ok_iff.mp afterRun
  obtain ⟨fingerprint, _, built⟩ := Outcome.bind_eq_ok_iff.mp afterBuild
  cases built
  exact ⟨result, warnings, ran, made⟩

/-- What a compilation reports of the finished wiring. -/
theorem reports_of_compile (done : compile input = .ok output)
    (ran : Passes.run (setting input) = .ok result) :
    output.manifest = Manifest.ofWiring result.wired.wiring ∧
      output.summary.consumers = result.wired.wiring.connections.length ∧
        output.summary.resolved =
          result.wired.wiring.connections.countP (·.producer?.isSome) ∧
        output.summary.unresolved =
          result.wired.wiring.connections.countP (·.producer?.isNone) ∧
        output.summary.siblings = result.siblingCount := by
  obtain ⟨other, same, afterRun⟩ := Outcome.bind_eq_ok_iff.mp done
  obtain rfl : result = other := Except.ok.inj (ran.symm.trans same)
  obtain ⟨_, _, afterBuild⟩ := Outcome.bind_eq_ok_iff.mp afterRun
  obtain ⟨_, _, built⟩ := Outcome.bind_eq_ok_iff.mp afterBuild
  cases built
  exact ⟨rfl, rfl, rfl, rfl, rfl⟩

/-- The entries that a compilation counts are those that its dictionary has more. -/
theorem entriesAdded_of_compile (done : compile input = .ok output) :
    output.summary.entriesAdded = output.dictionary.size - input.dictionary.size := by
  obtain ⟨_, _, afterRun⟩ := Outcome.bind_eq_ok_iff.mp done
  obtain ⟨_, _, afterBuild⟩ := Outcome.bind_eq_ok_iff.mp afterRun
  obtain ⟨_, _, built⟩ := Outcome.bind_eq_ok_iff.mp afterBuild
  cases built
  rfl

/-- The dictionary of the grammar grew out of that of the finished wiring. -/
theorem extends_of_build {grammar : Grammar} {dictionary : Dictionary} {warnings : List Warning}
    (built : Grammar.build input.requests input.options result.wired =
      .ok (grammar, dictionary, warnings)) : dictionary.Extends result.wired.dictionary := by
  obtain ⟨_, registered, _⟩ := Grammar.build_eq_ok built
  rw [registered]
  exact Dictionary.extends_registerAll _ _

/-- A compilation succeeds only if every section kept as it is has a canonical text. -/
theorem canonical_of_compile (done : compile input = .ok output) :
    ∀ entry ∈ input.dictionary.uninterpreted.toList, (Json.canonicalText? entry.2).isSome := by
  obtain ⟨result, ran, afterRun⟩ := Outcome.bind_eq_ok_iff.mp done
  obtain ⟨⟨grammar, dictionary, warnings⟩, built, afterBuild⟩ := Outcome.bind_eq_ok_iff.mp afterRun
  obtain ⟨text, fingerprinted, _⟩ := Outcome.bind_eq_ok_iff.mp afterBuild
  have kept : dictionary.uninterpreted = input.dictionary.uninterpreted :=
    ((extends_of_build built).trans (Passes.origins_of_run ran).1).uninterpreted
  rw [← kept]
  exact (fingerprint_ok_iff _ dictionary).mp ⟨text, fingerprinted⟩

/-- Once the grammar is built, a compilation succeeds if every section kept as it is has a canonical
text. -/
theorem compile_of_build {grammar : Grammar} {dictionary : Dictionary} {warnings : List Warning}
    (ran : Passes.run (setting input) = .ok result)
    (built : Grammar.build input.requests input.options result.wired =
      .ok (grammar, dictionary, warnings))
    (canonical : ∀ entry ∈ input.dictionary.uninterpreted.toList,
      (Json.canonicalText? entry.2).isSome) :
    ∃ output, compile input = .ok output ∧ output.grammar = grammar ∧
      output.dictionary = dictionary := by
  have kept : dictionary.uninterpreted = input.dictionary.uninterpreted :=
    ((extends_of_build built).trans (Passes.origins_of_run ran).1).uninterpreted
  rw [← kept] at canonical
  obtain ⟨text, fingerprinted⟩ :=
    (fingerprint_ok_iff (Manifest.ofWiring result.wired.wiring) dictionary).mpr canonical
  simp only [compile, ran, built, fingerprinted, bind, Except.bind, pure, Except.pure,
    Except.ok.injEq]
  exact ⟨_, rfl, rfl, rfl⟩

/-- What is computed of the finished wiring and its grammar belongs to a compilation that succeeds,
if every section kept as it is has a canonical text. -/
theorem compile_of_computed {α : Type} (read : Passes.Result → Grammar → α) {value : α}
    (computed : ((Passes.run (setting input)).toOption.bind fun result =>
      (Grammar.build input.requests input.options result.wired).toOption.map
        fun built => read result built.1) = some value)
    (canonical : ∀ entry ∈ input.dictionary.uninterpreted.toList,
      (Json.canonicalText? entry.2).isSome) :
    ∃ output result, compile input = .ok output ∧ Passes.run (setting input) = .ok result ∧
      read result output.grammar = value := by
  obtain ⟨result, made, later⟩ := Option.bind_eq_some_iff.mp computed
  obtain ⟨⟨grammar, dictionary, warnings⟩, built, found⟩ := Option.map_eq_some_iff.mp later
  have ran := Outcome.ok_of_toOption made
  obtain ⟨output, compiled, rfl, _⟩ :=
    compile_of_build ran (Outcome.ok_of_toOption built) canonical
  exact ⟨output, result, compiled, ran, found⟩

/-- What a compilation has made before the fingerprint is drawn up: the finished wiring, the grammar
and the dictionary. -/
def built? (input : Input) : Option (Passes.Result × Grammar × Dictionary) :=
  (Passes.run (setting input)).toOption.bind fun result =>
    (Grammar.build input.requests input.options result.wired).toOption.map fun built =>
      (result, built.1, built.2.1)

/-- What has been made before the fingerprint is what a compilation gives, if every section kept as
it is has a canonical text. -/
theorem compile_of_built? {grammar : Grammar} {dictionary : Dictionary}
    (made : built? input = some (result, grammar, dictionary))
    (canonical : ∀ entry ∈ input.dictionary.uninterpreted.toList,
      (Json.canonicalText? entry.2).isSome) :
    ∃ output, compile input = .ok output ∧ Passes.run (setting input) = .ok result ∧
      output.grammar = grammar ∧ output.dictionary = dictionary := by
  obtain ⟨other, ran, later⟩ := Option.bind_eq_some_iff.mp made
  obtain ⟨⟨_, _, warnings⟩, built, same⟩ := Option.map_eq_some_iff.mp later
  cases same
  obtain ⟨output, compiled, sameGrammar, sameDictionary⟩ := compile_of_build
    (Outcome.ok_of_toOption ran) (Outcome.ok_of_toOption built) canonical
  exact ⟨output, compiled, Outcome.ok_of_toOption ran, sameGrammar, sameDictionary⟩

end ApiWiring.Compilation
