import ApiWiring.Proofs.Compilation.Course
import ApiWiring.Proofs.Wiring.Entries

/-!
# The spelling of keys

Keys of a dictionary are found ignoring case, but they are sent as they are spelled. A dictionary
producer is spelled like a key of the finished dictionary unless it has its spelling from the
dictionary of its endpoint alone. Then it depends on what else is sent: the first payload that
equals it ignoring case gives the key, and every other spelling is left without one.
-/
namespace ApiWiring.Compilation

open Text

variable {input : Input} {output : Output}

/-- Whether a dictionary producer is a key of a dictionary as it is spelled, if the dictionary has
it in any spelling. -/
def SpelledLikeKey (dictionary : Dictionary) (entry : CustomPayload) : Prop :=
  dictionary.Holds entry.section_ entry.name → entry.name ∈ dictionary.keys entry.section_

/-- After payloads are registered, an entry is spelled like its key exactly when it was a key
before, or when the dictionary had it in no spelling and the first payload that spells it, if there
is one, spells it alike. -/
theorem spelledLikeKey_registerAll (dictionary : Dictionary) (payloads : List CustomPayload)
    (entry : CustomPayload) :
    SpelledLikeKey (dictionary.registerAll payloads) entry ↔
      entry.name ∈ dictionary.keys entry.section_ ∨
        (¬dictionary.Holds entry.section_ entry.name ∧ ∀ spelling,
          Dictionary.firstSpelling? entry.section_ payloads entry.name = some spelling →
            spelling = entry.name) := by
  rw [SpelledLikeKey, Dictionary.holds_registerAll]
  by_cases present : entry.name ∈ dictionary.keys entry.section_
  · have grown := Dictionary.extends_registerAll dictionary payloads
    exact iff_of_true (fun _ => grown.mem_keys present) (.inl present)
  · rw [Dictionary.mem_keys_registerAll present, or_iff_right present]
    constructor
    · intro spelled
      refine ⟨fun held => (spelled (.inl held)).1 held, fun spelling found => ?_⟩
      have same := (spelled (.inr (Option.isSome_of_eq_some found))).2
      rw [found, Option.some.injEq] at same
      exact same
    · rintro ⟨absent, agrees⟩ (held | spelled)
      · exact absurd held absent
      · obtain ⟨spelling, found⟩ := Option.isSome_iff_exists.mp spelled
        refine ⟨absent, ?_⟩
        rw [found, agrees spelling found]

/-- If a compilation succeeds, every dictionary producer is a key of the dictionary of the finished
wiring, or it has its spelling from the dictionary of its consumer's endpoint and the starting
dictionary has none for it. It is spelled like the key of the finished dictionary, if there is one,
exactly when it is a key of the dictionary of the finished wiring, or when that dictionary has it in
no spelling and the first payload of the grammar that spells it, if there is one, spells it alike.
-/
theorem dictionary_spelling (done : compile input = .ok output) :
    ∃ result, Passes.run (setting input) = .ok result ∧
      ∀ connection ∈ result.wired.wiring.connections, ∀ entry,
        connection.producer? = some (.dictionary entry) →
          (entry.name ∈ result.wired.dictionary.keys entry.section_ ∨
            (∃ own,
              input.ofEndpoint.get? connection.consumer.slot.request.endpoint = some own ∧
                entry.name ∈ own.keys entry.section_) ∧
              ¬input.dictionary.Holds entry.section_ entry.name) ∧
          (SpelledLikeKey output.dictionary entry ↔
            entry.name ∈ result.wired.dictionary.keys entry.section_ ∨
              (¬result.wired.dictionary.Holds entry.section_ entry.name ∧ ∀ spelling,
                Dictionary.firstSpelling? entry.section_ output.grammar.customPayloads
                    entry.name = some spelling → spelling = entry.name)) := by
  obtain ⟨result, warnings, ran, built⟩ := compile_eq_ok done
  obtain ⟨_, registered, _⟩ := Grammar.build_eq_ok built
  refine ⟨result, ran, fun connection member entry supplied => ⟨?_, ?_⟩⟩
  · exact Passes.spelled_of_run ran member supplied
  · rw [registered]
    exact spelledLikeKey_registerAll _ _ _

/-! ## Two endpoints with different spellings -/

/-- Whether every dictionary producer of a compilation is spelled like its key. -/
def SpellsLikeKeys (input : Input) : Prop :=
  ∀ output, compile input = .ok output → ∀ result, Passes.run (setting input) = .ok result →
    ∀ connection ∈ result.wired.wiring.connections, ∀ entry,
      connection.producer? = some (.dictionary entry) → SpelledLikeKey output.dictionary entry

/-- A request with one query parameter `k`. -/
def queryRequest (endpoint : String) : Request where
  id := ⟨endpoint, .get⟩
  pathParameters := []
  queryParameters := ⟨[⟨"k", .leaf (.plain "k" (.ofType .string))⟩], none⟩
  bodyParameters := .empty
  response := none
  links := []

/-- A dictionary with one list of values. -/
def dictionaryOf (key : String) : Dictionary :=
  { Dictionary.empty with custom := .ofList [(key, ["1"])] }

/-- Two requests with one query parameter, whose endpoints spell its values differently. -/
def caseInput : Input where
  requests := [queryRequest "/a", queryRequest "/b"]
  records := []
  dictionary := .empty
  ofEndpoint := .ofList [("/a", dictionaryOf "k"), ("/b", dictionaryOf "K")]
  options := .standard

/-- The query parameter of the second request of `caseInput`. -/
def secondConsumer : Consumer := .plain ⟨⟨"/b", .get⟩, "k", .query ⟨["k"]⟩, none, .string⟩ .query

/-- The entry of the second request of `caseInput`. -/
def secondEntry : CustomPayload := ⟨.string, .string, "K", false⟩

/-- What compiling `caseInput` gives: the second request sends its own spelling, and the dictionary
has that of the first. -/
theorem caseInput_compiles :
    ∃ output result, compile caseInput = .ok output ∧
      Passes.run (setting caseInput) = .ok result ∧ output.dictionary.keys .string = ["k"] ∧
        ⟨secondConsumer, some (.dictionary secondEntry)⟩ ∈ result.wired.wiring.connections := by
  have compiled : (compile caseInput).toOption.map (fun output =>
      output.dictionary.keys .string) = some ["k"] := by
    decide +kernel
  have wired : (Passes.run (setting caseInput)).toOption.map (fun result =>
      decide (⟨secondConsumer, some (.dictionary secondEntry)⟩ ∈
        result.wired.wiring.connections)) = some true := by
    decide +kernel
  obtain ⟨output, made, keys⟩ := Option.map_eq_some_iff.mp compiled
  obtain ⟨result, ran, found⟩ := Option.map_eq_some_iff.mp wired
  rw [decide_eq_true_eq] at found
  exact ⟨output, result, Outcome.ok_of_toOption made, Outcome.ok_of_toOption ran, keys, found⟩

/-- The entry that the second request of `caseInput` sends has its spelling from its endpoint, and
it is like its key exactly when what the grammar sends first is spelled alike. -/
theorem caseInput_dictionary_spelling :
    ∃ output result, compile caseInput = .ok output ∧
      Passes.run (setting caseInput) = .ok result ∧
        ⟨secondConsumer, some (.dictionary secondEntry)⟩ ∈ result.wired.wiring.connections ∧
          (SpelledLikeKey output.dictionary secondEntry ↔
            "K" ∈ result.wired.dictionary.keys .string ∨
              (¬result.wired.dictionary.Holds .string "K" ∧ ∀ spelling,
                Dictionary.firstSpelling? .string output.grammar.customPayloads "K" =
                  some spelling → spelling = "K")) := by
  obtain ⟨output, result, compiled, ran, _, member⟩ := caseInput_compiles
  obtain ⟨other, same, spelled⟩ := dictionary_spelling compiled
  obtain rfl : result = other := Except.ok.inj (ran.symm.trans same)
  exact ⟨output, result, compiled, ran, member, (spelled _ member secondEntry rfl).2⟩

/-- The second request of `caseInput` sends an entry that the dictionary has in another spelling
only. -/
theorem not_spellsLikeKeys_caseInput : ¬SpellsLikeKeys caseInput := by
  intro spelled
  obtain ⟨output, result, compiled, ran, keys, member⟩ := caseInput_compiles
  have like := spelled output compiled result ran _ member secondEntry rfl
  have held : output.dictionary.Holds .string "K" := by
    refine ⟨"k", ?_, by decide⟩
    rw [keys]
    decide
  have present : "K" ∈ output.dictionary.keys .string := like held
  rw [keys] at present
  exact absurd present (by decide)

end ApiWiring.Compilation
