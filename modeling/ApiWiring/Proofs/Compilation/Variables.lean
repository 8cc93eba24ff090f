import ApiWiring.Proofs.Compilation.Course
import ApiWiring.Proofs.Grammar.Captures
import ApiWiring.Proofs.Naming.Variables

/-!
# Variables of a compilation

Every value kept from a response is kept under the name made of its request and its path. Names are
made to be read, not to be told apart: they keep the words of the endpoint and of the path and drop
what separates them, so values of different requests may share a variable.
-/
namespace ApiWiring

open Naming

namespace Grammar

/-- The values that a request of a grammar keeps are named after it and their paths. -/
theorem variableName_of_mem_captures {wiring : Wiring} {requests : List GrammarRequest}
    (keeps : FirstKeeps wiring requests) {keeper : GrammarRequest} (member : keeper ∈ requests)
    {capture : Capture} (kept : capture ∈ keeper.captures) :
    capture.variableName = variableName keeper.id capture.path := by
  obtain ⟨front, back, split⟩ := List.append_of_mem member
  rw [keeps front keeper back split] at kept
  split at kept
  · exact absurd kept List.not_mem_nil
  · obtain ⟨supplier, among, rfl⟩ := mem_captures_iff.mp kept
    have owner := (supplies_of_mem_suppliers among).2
    rw [← owner]
    rfl

end Grammar

namespace Compilation

variable {input : Input} {output : Output}

/-- If a compilation succeeds, two of the values that its requests keep have one variable name
exactly when the words of their names are the same: those of the endpoints in small letters, the
methods and those of the paths. For two values of one request these are the words of the paths. -/
theorem variables_by_words (done : compile input = .ok output) :
    ∀ left ∈ output.grammar.requests, ∀ first ∈ left.captures,
      ∀ right ∈ output.grammar.requests, ∀ second ∈ right.captures,
        (first.variableName = second.variableName ↔
          variableWords left.id first.path = variableWords right.id second.path) ∧
        (left.id = right.id → (first.variableName = second.variableName ↔
          pathWords first.path = pathWords second.path)) := by
  obtain ⟨result, _, _, built⟩ := compile_eq_ok done
  obtain ⟨_, _, keeps⟩ := Grammar.build_eq_ok built
  intro left inLeft first keptFirst right inRight second keptSecond
  have named : first.variableName = second.variableName ↔
      variableWords left.id first.path = variableWords right.id second.path := by
    rw [Grammar.variableName_of_mem_captures keeps inLeft keptFirst,
      Grammar.variableName_of_mem_captures keeps inRight keptSecond]
    exact variableName_eq_iff
  refine ⟨named, fun same => ?_⟩
  rw [same] at named
  exact named.trans variableWords_eq_iff_of_request

/-! ## Two endpoints of the same words -/

/-- Whether values kept from different places always have different variables. -/
def KeepsApart (input : Input) : Prop :=
  ∀ output, compile input = .ok output →
    ∀ left ∈ output.grammar.requests, ∀ first ∈ left.captures,
      ∀ right ∈ output.grammar.requests, ∀ second ∈ right.captures,
        left.id ≠ right.id ∨ first.path ≠ second.path →
          first.variableName ≠ second.variableName

/-- A request that creates a resource and answers with its identity. -/
def creating (endpoint : String) : Request where
  id := ⟨endpoint, .post⟩
  pathParameters := []
  queryParameters := .empty
  bodyParameters := .empty
  response := some (.inner ⟨"", none, .object, true, false⟩ [.leaf (.plain "id" (.ofType .int))])
  links := []

/-- A request that reads a resource by its identity. -/
def readingBy (endpoint : String) : Request where
  id := ⟨endpoint, .get⟩
  pathParameters := [⟨"id", .leaf (.plain "id" (.ofType .int))⟩]
  queryParameters := .empty
  bodyParameters := .empty
  response := none
  links := []

/-- Two resources are created and read whose endpoints consist of the same words. -/
def wordsInput : Input where
  requests := [creating "/a/b", creating "/a-b", readingBy "/a/b/\x7bid\x7d",
    readingBy "/a-b/\x7bid\x7d"]
  records := []
  dictionary := .empty
  ofEndpoint := .empty
  options := .standard

/-- The value that both creations of `wordsInput` keep. -/
def identity : Capture := ⟨⟨["id"]⟩, "_a_b_post_id", .int⟩

/-- The grammar of `wordsInput`: only the creating requests keep something. -/
theorem wordsInput_keeps :
    ((Passes.run (setting wordsInput)).toOption.bind fun result =>
      (Grammar.build wordsInput.requests wordsInput.options result.wired).toOption.map
        fun built => built.1.requests.map fun sent => (sent.id, sent.captures)) =
      some [(⟨"/a/b", .post⟩, [identity]), (⟨"/a-b", .post⟩, [identity]),
        (⟨"/a/b/\x7bid\x7d", .get⟩, []), (⟨"/a-b/\x7bid\x7d", .get⟩, [])] := by
  decide +kernel

/-- What compiling `wordsInput` gives: both creations keep the identity under one name. -/
theorem wordsInput_compiles :
    ∃ output, compile wordsInput = .ok output ∧ ∀ endpoint ∈ ["/a/b", "/a-b"],
      ∃ keeper ∈ output.grammar.requests, keeper.id = ⟨endpoint, .post⟩ ∧
        identity ∈ keeper.captures := by
  obtain ⟨output, _, compiled, _, kept⟩ := compile_of_computed
    (fun _ grammar => grammar.requests.map fun sent => (sent.id, sent.captures)) wordsInput_keeps
    (by decide)
  refine ⟨output, compiled, fun endpoint among => ?_⟩
  have listed : (⟨endpoint, .post⟩, [identity]) ∈
      output.grammar.requests.map fun sent => (sent.id, sent.captures) := by
    rw [kept]
    rcases List.mem_pair.mp among with rfl | rfl
    · exact .head _
    · exact .tail _ (.head _)
  obtain ⟨keeper, member, same⟩ := List.mem_map.mp listed
  rw [Prod.mk.injEq] at same
  exact ⟨keeper, member, same.1, same.2 ▸ List.mem_singleton.mpr rfl⟩

/-- The identities of `wordsInput` have the same words, since they have one name. -/
theorem wordsInput_variables_by_words :
    ∃ output, compile wordsInput = .ok output ∧
      variableWords ⟨"/a/b", .post⟩ identity.path =
        variableWords ⟨"/a-b", .post⟩ identity.path := by
  obtain ⟨output, compiled, kept⟩ := wordsInput_compiles
  obtain ⟨left, inLeft, leftId, leftKeeps⟩ := kept "/a/b" (.head _)
  obtain ⟨right, inRight, rightId, rightKeeps⟩ := kept "/a-b" (.tail _ (.head _))
  have words := (variables_by_words compiled left inLeft identity leftKeeps right inRight identity
    rightKeeps).1.mp rfl
  rw [leftId, rightId] at words
  exact ⟨output, compiled, words⟩

/-- The identities of `wordsInput` come from different requests and have one variable. -/
theorem not_keepsApart_wordsInput : ¬KeepsApart wordsInput := by
  intro apart
  obtain ⟨output, compiled, kept⟩ := wordsInput_compiles
  obtain ⟨left, inLeft, leftId, leftKeeps⟩ := kept "/a/b" (.head _)
  obtain ⟨right, inRight, rightId, rightKeeps⟩ := kept "/a-b" (.tail _ (.head _))
  have different : left.id ≠ right.id := by
    rw [leftId, rightId]
    decide
  exact apart output compiled left inLeft identity leftKeeps right inRight identity rightKeeps
    (.inl different) rfl

end Compilation

end ApiWiring
