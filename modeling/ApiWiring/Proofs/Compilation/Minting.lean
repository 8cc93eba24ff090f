import ApiWiring.Proofs.Compilation.Rerun
import ApiWiring.Proofs.Wiring.Minting

/-!
# One key for a unique name in many spellings

Every request that creates the resource which its path parameter names makes its own unique name,
in its own spelling and from its own copy of the starting dictionary. In a compilation that succeeds
all of them that are equal ignoring case are one entry: it is spelled as the first request spells
it, and the finished dictionary has no other key that equals it ignoring case.
-/
namespace ApiWiring.Compilation

open Text

variable {input : Input} {output : Output}

/-- A consumer of a path for which a unique name was made keeps it through the second pass. -/
theorem uniqueName_of_run {setting : Setting} {surveys : List Survey} {result : Passes.Result}
    (surveyed : Passes.surveys setting = .ok surveys) (ran : Passes.run setting = .ok result)
    {consumer : Consumer} (member : consumer ∈ Passes.minted setting surveys) :
    ∃ leader, (Passes.minted setting surveys).find? (fun other =>
        decide (EqualIgnoringCase other.slot.name consumer.slot.name)) = some leader ∧
      leader.slot.name ∈ result.wired.dictionary.keys .uuidSuffix ∧
        result.wired.wiring.producerAt? consumer.key =
          some (.dictionary (.uniqueName leader.slot.name)) := by
  obtain ⟨others, wired, progress, resurveyed, started, finished, built, _⟩ :=
    Passes.run_eq_ok ran
  obtain rfl : surveys = others := Except.ok.inj (surveyed.symm.trans resurveyed)
  obtain ⟨leader, found, stored, supplied⟩ := Passes.uniqueName_of_first started member
  have later : progress.wired.dictionary.Extends wired.dictionary :=
    (Passes.origin_of_second (Passes.origin_of_first _ started).2 finished).1
  have path : consumer.kind = .path := by
    obtain ⟨survey, _, inside⟩ := List.mem_flatMap.mp member
    exact (Passes.connection_of_mem_mintedAll inside).1
  refine ⟨leader, found, ?_, ?_⟩
  · rw [built]
    exact later.mem_keys (Dictionary.mem_keys_of_key? stored).1
  · rw [built]
    refine Passes.producerAt?_of_not_supplies surveyed started finished supplied
      fun _ supplies => ?_
    have body : consumer.kind = .body := supplies.kind
    rw [path] at body
    cases body

/-- If a compilation succeeds, any two path parameters for which unique names were made and whose
names are equal ignoring case have the same dictionary producer: its name is that of the first such
parameter in the order of the requests, and it is the only key of the finished dictionary's unique
names that equals it ignoring case. -/
theorem unique_names_are_shared (done : compile input = .ok output) :
    ∃ surveys result, Passes.surveys (setting input) = .ok surveys ∧
      Passes.run (setting input) = .ok result ∧
        output.manifest = .ofWiring result.wired.wiring ∧
          ∀ left ∈ Passes.minted (setting input) surveys,
            ∀ right ∈ Passes.minted (setting input) surveys,
              EqualIgnoringCase left.slot.name right.slot.name →
                ∃ leader, (Passes.minted (setting input) surveys).find? (fun other =>
                    decide (EqualIgnoringCase other.slot.name left.slot.name)) = some leader ∧
                  result.wired.wiring.producerAt? left.key =
                      some (.dictionary (.uniqueName leader.slot.name)) ∧
                    result.wired.wiring.producerAt? right.key =
                        some (.dictionary (.uniqueName leader.slot.name)) ∧
                      (output.dictionary.keys .uuidSuffix).filter (fun key =>
                        decide (EqualIgnoringCase key leader.slot.name)) =
                          [leader.slot.name] := by
  obtain ⟨result, warnings, ran, built⟩ := compile_eq_ok done
  obtain ⟨surveys, _, _, surveyed, _⟩ := Passes.run_eq_ok ran
  refine ⟨surveys, result, surveyed, ran, (reports_of_compile done ran).1, ?_⟩
  intro left inLeft right inRight alike
  obtain ⟨leader, found, stored, suppliesLeft⟩ := uniqueName_of_run surveyed ran inLeft
  obtain ⟨other, refound, _, suppliesRight⟩ := uniqueName_of_run surveyed ran inRight
  have same : leader = other := by
    have tests : (fun other : Consumer =>
          decide (EqualIgnoringCase other.slot.name left.slot.name)) =
        fun other => decide (EqualIgnoringCase other.slot.name right.slot.name) := by
      funext other
      exact decide_eq_decide.mpr ⟨fun like => like.trans alike, fun like => like.trans alike.symm⟩
    rw [← tests, found] at refound
    exact Option.some.inj refound
  have grown := (extends_of_build built).trans (Passes.origins_of_run ran).1
  have absent : ¬input.dictionary.Holds .uuidSuffix leader.slot.name := by
    obtain ⟨survey, _, inside⟩ := List.mem_flatMap.mp (List.mem_of_find?_eq_some found)
    exact (Passes.connection_of_mem_mintedAll inside).2.1
  refine ⟨leader, found, suppliesLeft, same ▸ suppliesRight, ?_⟩
  exact grown.filter_alike absent ((extends_of_build built).mem_keys stored)

/-! ## Three spellings of one name -/

/-- Three requests that create a resource by its name, each in a spelling of its own. -/
def respelledInput : Input where
  requests := [creatingRequest "itemName", creatingRequest "ItemName", creatingRequest "ITEMNAME"]
  records := []
  dictionary := .empty
  ofEndpoint := .empty
  options := .standard

/-- The path parameter of a request of `respelledInput`. -/
def createdBy (name : String) : Consumer :=
  .plain ⟨(creatingRequest name).id, name, .path ["x"], none, .string⟩ .path

/-- Of the requests of `respelledInput`, the later ones have the unique name of the first, which is
the only key. -/
theorem respelledInput_unique_names_are_shared :
    ∃ output result, compile respelledInput = .ok output ∧
      Passes.run (setting respelledInput) = .ok result ∧
        result.wired.wiring.producerAt? (createdBy "ITEMNAME").key =
            some (.dictionary (.uniqueName "itemName")) ∧
          result.wired.wiring.producerAt? (createdBy "ItemName").key =
              some (.dictionary (.uniqueName "itemName")) ∧
            (output.dictionary.keys .uuidSuffix).filter (fun key =>
              decide (EqualIgnoringCase key "itemName")) = ["itemName"] := by
  have made : (built? respelledInput).isSome = true := by decide +kernel
  have asked : (Passes.surveys (setting respelledInput)).toOption.map
      (Passes.minted (setting respelledInput)) =
        some (["itemName", "ItemName", "ITEMNAME"].map createdBy) := by
    decide +kernel
  obtain ⟨⟨result, grammar, dictionary⟩, built⟩ := Option.isSome_iff_exists.mp made
  obtain ⟨output, done, _⟩ := compile_of_built? built (by decide)
  obtain ⟨surveys, other, surveyed, ran, _, shared⟩ := unique_names_are_shared done
  obtain ⟨known, present, minted⟩ := Option.map_eq_some_iff.mp asked
  have same := surveyed.symm.trans (Outcome.ok_of_toOption present)
  obtain rfl : surveys = known := Except.ok.inj same
  rw [minted] at shared
  obtain ⟨leader, found, suppliesLeft, suppliesRight, only⟩ :=
    shared (createdBy "ITEMNAME") (by decide) (createdBy "ItemName") (by decide) (by decide)
  obtain rfl : createdBy "itemName" = leader := Option.some.inj found
  exact ⟨output, other, done, ran, suppliesLeft, suppliesRight, only⟩

end ApiWiring.Compilation
