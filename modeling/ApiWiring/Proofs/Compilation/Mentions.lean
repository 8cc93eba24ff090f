import ApiWiring.Proofs.Compilation.Course
import ApiWiring.Proofs.Grammar.Mentions

/-!
# Entries that a compilation mentions

Whatever dictionary entry the finished grammar mentions, be it in a path, in a leaf, in what an
inner node sends instead of its subtree or in some part of these, and be it brought in by the wiring
or given from the start, the finished dictionary holds its name in its own section.
-/
namespace ApiWiring.Compilation

variable {input : Input} {output : Output}

/-- If a compilation succeeds, the section of every dictionary entry that the grammar mentions has a
key that equals the name of the entry ignoring case. -/
theorem mentions_are_held (done : compile input = .ok output) (entry : CustomPayload)
    (mentioned : output.grammar.Mentions entry) :
    output.dictionary.Holds entry.section_ entry.name := by
  obtain ⟨result, warnings, _, built⟩ := compile_eq_ok done
  exact Grammar.holds_of_mentions built mentioned

/-! ## Entries given from the start -/

/-- A header that a user has put into a part of a part. -/
def givenHeader : CustomPayload := ⟨.header, .string, "x-trace", false⟩

/-- A creating request whose body is sent as one text that has a header in it, while the dictionary
spells the header differently; its path parameter gets a unique name. -/
def mentionInput : Input where
  requests := [
    { id := ⟨"/t/\x7bk\x7d", .put⟩
      pathParameters := [⟨"k", .leaf (.plain "k" (.ofType .string))⟩]
      queryParameters := .empty
      bodyParameters := ⟨[⟨"b", .inner
        ⟨"", some (.parts [.text "trace: ", .parts [.custom givenHeader]]), .object, true, false⟩
        [.leaf (.plain "id" (.ofType .string))]⟩], none⟩
      response := none
      links := [] }]
  records := []
  dictionary := { Dictionary.empty with header := .ofList [("X-Trace", ["1"])] }
  ofEndpoint := .empty
  options := .standard

/-- The grammar of `mentionInput` mentions the header and the unique name, and the dictionary holds
both. -/
theorem mentionInput_mentions_are_held :
    ∃ output, compile mentionInput = .ok output ∧
      output.grammar.Mentions (.uniqueName "k") ∧ output.grammar.Mentions givenHeader ∧
        output.dictionary.Holds .uuidSuffix "k" ∧ output.dictionary.Holds .header "x-trace" := by
  have computed : ∃ output result, compile mentionInput = .ok output ∧
      Passes.run (setting mentionInput) = .ok result ∧
        output.grammar.customPayloads = [.uniqueName "k", givenHeader] :=
    compile_of_computed (fun _ grammar => grammar.customPayloads) (by decide +kernel) (by decide)
  obtain ⟨output, _, compiled, _, sent⟩ := computed
  have name : output.grammar.Mentions (.uniqueName "k") := by
    rw [← Grammar.mem_customPayloads_iff, sent]
    exact .head _
  have header : output.grammar.Mentions givenHeader := by
    rw [← Grammar.mem_customPayloads_iff, sent]
    exact .tail _ (.head _)
  exact ⟨output, compiled, name, header, mentions_are_held compiled _ name,
    mentions_are_held compiled _ header⟩

end ApiWiring.Compilation
