import ApiWiring.Proofs.Wiring.Origins

/-!
# Dictionary producers of the finished wiring

The name of a dictionary producer is a key of the finished dictionary, spelled exactly like it, with
one exception: an entry that only the dictionary of the consumer's endpoint has keeps the spelling
it has there, since no merged dictionary holds it at that time.
-/
namespace ApiWiring.Passes

variable {setting : Setting} {surveys : List Survey} {early : Wiring} {final : Dictionary}
  {connection : Connection} {entry : CustomPayload}

/-- Whether a dictionary producer has its spelling from the dictionary of its consumer's endpoint,
and the starting dictionary has no spelling for it. -/
def SpelledByEndpoint (setting : Setting) (connection : Connection) (entry : CustomPayload) :
    Prop :=
  (∃ own, setting.ofEndpoint.get? connection.consumer.slot.request.endpoint = some own ∧
    entry.name ∈ own.keys entry.section_) ∧ ¬setting.dictionary.Holds entry.section_ entry.name

/-- A dictionary producer of the first pass is spelled like a key, or by its consumer's endpoint. -/
theorem spelled_of_inferred (surveyed : Passes.surveys setting = .ok surveys) {survey : Survey}
    (listed : survey ∈ surveys)
    (member : connection ∈ (inferRequest setting (inference setting surveys) survey).1)
    {merged : Dictionary} (since : merged.Extends setting.dictionary)
    (taken : ∀ from_ key,
      (inferRequest setting (inference setting surveys) survey).2.Holds from_ key →
        merged.Holds from_ key)
    (supplied : connection.producer? = some (.dictionary entry)) :
    (entry.respelled merged).name ∈ merged.keys entry.section_ ∨
      SpelledByEndpoint setting connection (entry.respelled merged) := by
  obtain ⟨owner, before, after, _, later, answer⟩ :=
    answer_of_mem_inferRequest surveyed listed member supplied
  obtain ⟨sought, stocked⟩ := answer.stocked
  by_cases held : merged.Holds entry.section_ entry.name
  · exact .inl (CustomPayload.name_mem_of_holds sought held)
  · rw [CustomPayload.respelled_of_not_holds held]
    rcases stocked with ⟨own, given, present⟩ | answered
    · rw [← owner] at given
      exact .inr ⟨⟨own, given, present⟩, fun old => held (since.holds old)⟩
    · exact absurd (taken _ _ (later.holds answered)) held

/-- A dictionary producer of the second pass is spelled like a key once it is registered. -/
theorem spelled_of_paired {consumer : Consumer} {current : Dictionary}
    (member : connection ∈ siblingConnections (inference setting surveys) early consumer)
    (supplied : connection.producer? = some (.dictionary entry)) :
    (entry.respelled current).name ∈
      (registered current (connection.respelled current)).keys entry.section_ := by
  obtain ⟨slot, container, _, _, rfl | rfl, _⟩ := pair_of_mem_siblingConnections member
  · cases supplied
  · cases supplied
    have sought := CustomPayload.section_uniqueName_ne_header (container ++ "_" ++ slot.name)
    rw [registered, Connection.producer?_respelled_of_dictionary rfl]
    exact (Dictionary.mem_keys_of_key? (CustomPayload.key?_register_respelled sought)).1

/-- The name of a dictionary producer is a key of the finished dictionary, or it has its spelling
from the dictionary of its consumer's endpoint and the starting dictionary has none for it. -/
theorem Origin.spelled (origin : Origin setting surveys early final connection)
    (surveyed : Passes.surveys setting = .ok surveys)
    (supplied : connection.producer? = some (.dictionary entry)) :
    entry.name ∈ final.keys entry.section_ ∨ SpelledByEndpoint setting connection entry := by
  cases origin with
  | inferred survey listed raw member merged since taken kept =>
    obtain ⟨had, given, rfl⟩ := Connection.exists_entry_of_respelled supplied
    rcases spelled_of_inferred surveyed listed member since taken given with present | special
    · exact .inl (kept.mem_keys present)
    · rw [SpelledByEndpoint, Connection.consumer_respelled]
      exact .inr special
  | paired survey listed consumer inSurvey raw member current kept =>
    obtain ⟨had, given, rfl⟩ := Connection.exists_entry_of_respelled supplied
    exact .inl (kept.mem_keys (spelled_of_paired member given))

/-- Every dictionary producer of the finished wiring is spelled like a key of its dictionary, or by
its consumer's endpoint. -/
theorem spelled_of_run {result : Result} (ran : run setting = .ok result)
    (member : connection ∈ result.wired.wiring.connections)
    (supplied : connection.producer? = some (.dictionary entry)) :
    entry.name ∈ result.wired.dictionary.keys entry.section_ ∨
      SpelledByEndpoint setting connection entry := by
  obtain ⟨_, surveys, early, surveyed, origins⟩ := origins_of_run ran
  exact (origins connection member).spelled surveyed supplied

end ApiWiring.Passes
