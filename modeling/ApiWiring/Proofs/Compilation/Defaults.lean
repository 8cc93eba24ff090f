import ApiWiring.Proofs.Compilation.Spelling
import ApiWiring.Proofs.Compilation.Mentions
import ApiWiring.Proofs.Dictionary.Defaults

/-!
# What a compilation adds to the dictionary

Three places add entries: inference, where a request creates the resource that its path parameter
names, the second pass, and the grammar for what it sends. Each of them registers, and the entries
that a request adds to its own copy of the starting dictionary are merged. So the finished
dictionary is the starting one with default entries at the ends of its sections; the values that the
dictionary of an endpoint has for a key are not taken over, and neither its entries nor a starting
dictionary whose keys are equal ignoring case change that.
-/
namespace ApiWiring

namespace Passes

variable {setting : Setting} {surveys : List Survey}

/-- An answer appends at most one default entry. -/
theorem growsByDefault_of_answer {inference : Inference} {consumer : Consumer}
    {ofEndpoint : Option Dictionary} {before after : Dictionary} {producer : Producer}
    (answer : inference.Answer consumer ofEndpoint before producer after) :
    after.GrowsByDefault before := by
  cases answer with
  | minted => exact Dictionary.growsByDefault_register _ _
  | _ => exact .refl before

/-- Answering consumers appends default entries. -/
theorem growsByDefault_inferAll {inference : Inference} {ofEndpoint : Option Dictionary}
    {consumers : List Consumer} (apart : ∀ consumer ∈ consumers, consumer.LinkedElsewhere)
    (start : Dictionary) :
    (inferAll inference ofEndpoint start consumers).2.GrowsByDefault start := by
  induction consumers generalizing start with
  | nil => exact .refl start
  | cons consumer rest ih =>
    obtain ⟨here, later⟩ := List.forall_mem_cons.mp apart
    rw [inferAll_cons]
    refine (ih later _).trans ?_
    cases found : inference.find consumer start ofEndpoint with
    | mk result after =>
      cases result with
      | none =>
        rw [Inference.dictionary_eq_of_find_none found]
        exact .refl start
      | some producer => exact growsByDefault_of_answer (Inference.answer_of_find here found)

/-- The first pass appends default entries. -/
theorem growsByDefault_of_first (surveyed : Passes.surveys setting = .ok surveys) {wired : Wired}
    (done : first setting surveys = .ok wired) :
    wired.dictionary.GrowsByDefault setting.dictionary := by
  refine Outcome.foldlM_keeps (fun wired : Wired =>
    wired.dictionary.GrowsByDefault setting.dictionary) ?_ (.refl _) done
  intro state inferred next listed grown stepped
  obtain ⟨survey, inSurveys, rfl⟩ := List.mem_map.mp listed
  obtain ⟨wiring, _, built⟩ := Outcome.bind_eq_ok_iff.mp stepped
  cases built
  -- Each request starts from the starting dictionary, whatever others have added in the meantime.
  have ownGrown : (inferRequest setting (inference setting surveys) survey).2.GrowsByDefault
      setting.dictionary :=
    growsByDefault_inferAll (apart_of_mem_surveys surveyed inSurveys) setting.dictionary
  exact (Dictionary.growsByDefault_mergeMissing grown.extends ownGrown).trans grown

/-- Registering what a connection takes appends at most one default entry. -/
theorem growsByDefault_registered (dictionary : Dictionary) (connection : Connection) :
    (registered dictionary connection).GrowsByDefault dictionary := by
  unfold registered
  split
  · exact Dictionary.growsByDefault_register _ _
  · exact .refl dictionary

/-- The second pass appends default entries. -/
theorem growsByDefault_of_second {wired : Wired} {progress : Progress}
    (done : second (inference setting surveys) surveys wired = .ok progress) :
    progress.wired.dictionary.GrowsByDefault wired.dictionary := by
  refine Outcome.foldlM_keeps (fun progress : Progress =>
    progress.wired.dictionary.GrowsByDefault wired.dictionary) ?_ (.refl _) done
  intro state raw next _ grown stepped
  obtain ⟨registering, _⟩ := retake_eq_ok stepped
  rw [registering]
  exact (growsByDefault_registered _ _).trans grown

/-- The two passes append default entries. -/
theorem growsByDefault_of_run {result : Result} (ran : run setting = .ok result) :
    result.wired.dictionary.GrowsByDefault setting.dictionary := by
  obtain ⟨surveys, wired, progress, surveyed, started, finished, built, _⟩ := run_eq_ok ran
  rw [built]
  exact (growsByDefault_of_second finished).trans (growsByDefault_of_first surveyed started)

end Passes

namespace Compilation

variable {input : Input} {output : Output}

/-- A compilation appends default entries. -/
theorem growsByDefault_of_compile (done : compile input = .ok output) :
    output.dictionary.GrowsByDefault input.dictionary := by
  obtain ⟨result, warnings, ran, built⟩ := compile_eq_ok done
  obtain ⟨_, registered, _⟩ := Grammar.build_eq_ok built
  rw [registered]
  exact (Dictionary.growsByDefault_registerAll _ _).trans (Passes.growsByDefault_of_run ran)

/-- The entries that a compilation counts are those that it appends. -/
theorem entriesAdded_of_appended (done : compile input = .ok output)
    {newKeys : DictionarySection → List String}
    (appended : output.dictionary.AppendsDefaults input.dictionary newKeys) :
    output.summary.entriesAdded = (newKeys .string).length + (newKeys .uuidSuffix).length +
      (newKeys .header).length := by
  rw [entriesAdded_of_compile done, appended.size_eq, Nat.add_sub_cancel_left]

/-- If a compilation succeeds, its dictionary is the starting one with default entries at the ends
of its sections, under keys that no other key of their section equals ignoring case, and the entries
counted are these. -/
theorem dictionary_appends_defaults (done : compile input = .ok output) :
    ∃ newKeys : DictionarySection → List String,
      output.dictionary.AppendsDefaults input.dictionary newKeys ∧
        output.summary.entriesAdded = (newKeys .string).length + (newKeys .uuidSuffix).length +
          (newKeys .header).length := by
  obtain ⟨newKeys, appended⟩ := growsByDefault_of_compile done
  exact ⟨newKeys, appended, entriesAdded_of_appended done appended⟩

/-! ## Keys that are equal ignoring case -/

/-- A starting dictionary with two keys that are equal ignoring case, a request whose query
parameter is in the dictionary of its endpoint, and the request of `mentionInput`, which sends a
unique name and a header. -/
def collidingInput : Input where
  requests := queryRequest "/a" :: mentionInput.requests
  records := []
  dictionary := { Dictionary.empty with
    custom := .ofList [("a", ["1"]), ("A", ["2"])], uuidSuffix := .ofList [("m", "n")] }
  ofEndpoint := .ofList [("/a", dictionaryOf "K")]
  options := .standard

/-- Compiling `collidingInput` adds one default entry to each section. -/
theorem collidingInput_appends_defaults :
    ∃ output newKeys, compile collidingInput = .ok output ∧
      output.dictionary.AppendsDefaults collidingInput.dictionary newKeys ∧
        output.summary.entriesAdded = (newKeys .string).length + (newKeys .uuidSuffix).length +
          (newKeys .header).length ∧
        output.dictionary.keys .string = ["a", "A", "K"] ∧
          output.dictionary.keys .uuidSuffix = ["m", "k"] ∧
            output.dictionary.keys .header = ["x-trace"] := by
  have computed : (compile collidingInput).toOption.map (fun output =>
      (output.dictionary.keys .string, output.dictionary.keys .uuidSuffix,
        output.dictionary.keys .header)) = some (["a", "A", "K"], ["m", "k"], ["x-trace"]) := by
    decide +kernel
  obtain ⟨output, made, keys⟩ := Option.map_eq_some_iff.mp computed
  obtain ⟨string, uuidSuffix, header⟩ := by simpa only [Prod.mk.injEq] using keys
  have compiled := Outcome.ok_of_toOption made
  obtain ⟨newKeys, appended, counted⟩ := dictionary_appends_defaults compiled
  exact ⟨output, newKeys, compiled, appended, counted, string, uuidSuffix, header⟩

end Compilation

end ApiWiring
