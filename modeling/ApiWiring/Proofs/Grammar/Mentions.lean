import ApiWiring.Proofs.Grammar.Course
import ApiWiring.Proofs.Tree.Visits

/-!
# What a grammar mentions

A dictionary entry is mentioned by a payload that is the entry or has it in one of its parts, by a
tree one of whose nodes sends such a payload, and by a request one of whose path parts, query
parameters or body parameters mentions it. What is registered while a grammar is built are exactly
the entries mentioned, so the dictionary holds each of them afterwards.
-/
namespace ApiWiring

namespace Payload

/-- What holds of payloads without parts and passes from the parts of a payload to the payload holds
of every payload. -/
@[elab_as_elim]
theorem induction {motive : Payload → Prop}
    (single : ∀ payload, (∀ payloads, payload ≠ .parts payloads) → motive payload)
    (parts : ∀ payloads, (∀ part ∈ payloads, motive part) → motive (.parts payloads))
    (payload : Payload) : motive payload := by
  refine Payload.rec (motive_1 := motive)
    (motive_2 := fun payloads => ∀ part ∈ payloads, motive part)
    (fun _ _ => single _ nofun) (fun _ _ => single _ nofun) (fun _ => single _ nofun)
    (fun _ => single _ nofun) parts ?_ ?_ payload
  · intro part member
    simp at member
  · intro head tail first others part member
    rcases List.mem_cons.mp member with rfl | later
    · exact first
    · exact others part later

/-- Whether a payload is a dictionary entry or has it in one of its parts, however deep. -/
inductive Mentions (entry : CustomPayload) : Payload → Prop where
  /-- The entry. -/
  | itself : Mentions entry (.custom entry)
  /-- Payloads in a row of which one mentions the entry. -/
  | part (payloads : List Payload) (part : Payload) (listed : part ∈ payloads)
    (inside : Mentions entry part) : Mentions entry (.parts payloads)

/-- The dictionary entries in a payload are those that it mentions. -/
theorem mem_customPayloads_iff {payload : Payload} {entry : CustomPayload} :
    entry ∈ payload.customPayloads ↔ payload.Mentions entry := by
  induction payload using Payload.induction with
  | single payload whole =>
    constructor
    · intro member
      cases payload with
      | custom other =>
        obtain rfl := List.mem_singleton.mp member
        exact .itself
      | parts payloads => exact absurd rfl (whole payloads)
      | fuzzable | constant | dynamic => exact absurd member List.not_mem_nil
    · intro mentioned
      cases mentioned with
      | itself => exact List.mem_singleton.mpr rfl
      | part payloads part listed inside => exact absurd rfl (whole payloads)
  | parts payloads ih =>
    rw [customPayloads, listCustomPayloads_eq, List.mem_flatMap]
    constructor
    · rintro ⟨part, listed, inside⟩
      exact .part payloads part listed ((ih part listed).mp inside)
    · intro mentioned
      cases mentioned with
      | part _ part listed inside => exact ⟨part, listed, (ih part listed).mpr inside⟩

end Payload

/-- Whether some node of a tree, leaf or not, sends a payload that mentions a dictionary entry. -/
def PropertyTree.Mentions (entry : CustomPayload) (tree : PropertyTree) : Prop :=
  ∃ position below payload, tree.subtree? position = some below ∧
    below.node.payload? = some payload ∧ payload.Mentions entry

/-- The dictionary entries that a tree sends are those that it mentions. -/
theorem PropertyTree.mem_customPayloads_iff {tree : PropertyTree} {entry : CustomPayload} :
    entry ∈ tree.customPayloads ↔ tree.Mentions entry := by
  simp only [customPayloads, List.mem_flatMap, Option.mem_toList, Prod.exists, mem_visits_iff,
    Payload.mem_customPayloads_iff]
  constructor
  · rintro ⟨_, _, ⟨position, below, found, rfl, rfl⟩, payload, sent, mentioned⟩
    exact ⟨position, below, payload, found, sent, mentioned⟩
  · rintro ⟨position, below, payload, found, sent, mentioned⟩
    exact ⟨_, _, ⟨position, below, found, rfl, rfl⟩, payload, sent, mentioned⟩

/-- Whether a request mentions a dictionary entry anywhere. -/
inductive GrammarRequest.Mentions (entry : CustomPayload) (sent : GrammarRequest) : Prop where
  /-- In its path. -/
  | path (part : Payload) (listed : part ∈ sent.path) (inside : part.Mentions entry)
  /-- In a query parameter. -/
  | query (parameter : Parameter) (listed : parameter ∈ sent.queryParameters)
    (inside : parameter.payload.Mentions entry)
  /-- In a parameter of its body. -/
  | body (parameter : Parameter) (listed : parameter ∈ sent.bodyParameters)
    (inside : parameter.payload.Mentions entry)

/-- The dictionary entries that a request sends are those that it mentions. -/
theorem GrammarRequest.mem_customPayloads_iff {sent : GrammarRequest} {entry : CustomPayload} :
    entry ∈ sent.customPayloads ↔ sent.Mentions entry := by
  simp only [customPayloads, Payload.listCustomPayloads_eq, List.flatMap_append, List.mem_append,
    List.mem_flatMap, Payload.mem_customPayloads_iff, PropertyTree.mem_customPayloads_iff]
  constructor
  · rintro (⟨part, listed, inside⟩ | ⟨parameter, listed, inside⟩ | ⟨parameter, listed, inside⟩)
    · exact .path part listed inside
    · exact .query parameter listed inside
    · exact .body parameter listed inside
  · intro mentioned
    cases mentioned with
    | path part listed inside => exact .inl ⟨part, listed, inside⟩
    | query parameter listed inside => exact .inr (.inl ⟨parameter, listed, inside⟩)
    | body parameter listed inside => exact .inr (.inr ⟨parameter, listed, inside⟩)

namespace Grammar

variable {grammar : Grammar} {entry : CustomPayload}

/-- Whether a request of a grammar mentions a dictionary entry. -/
def Mentions (entry : CustomPayload) (grammar : Grammar) : Prop :=
  ∃ sent ∈ grammar.requests, sent.Mentions entry

/-- The dictionary entries that a grammar sends are those that it mentions. -/
theorem mem_customPayloads_iff : entry ∈ grammar.customPayloads ↔ grammar.Mentions entry := by
  simp only [customPayloads, List.mem_flatMap, GrammarRequest.mem_customPayloads_iff]
  rfl

/-- After a grammar is built the dictionary holds every entry that the grammar mentions. -/
theorem holds_of_mentions {requests : List Request} {options : Options} {wired : Wired}
    {dictionary : Dictionary} {warnings : List Warning}
    (built : build requests options wired = .ok (grammar, dictionary, warnings))
    (mentioned : grammar.Mentions entry) : dictionary.Holds entry.section_ entry.name := by
  obtain ⟨_, registered, _⟩ := build_eq_ok built
  rw [registered]
  exact Dictionary.holds_registerAll_of_mem (mem_customPayloads_iff.mpr mentioned)

end Grammar

end ApiWiring
