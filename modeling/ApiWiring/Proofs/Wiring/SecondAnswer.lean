import ApiWiring.Proofs.Wiring.Keys
import ApiWiring.Proofs.Wiring.Minting

/-!
# A consumer that is answered twice

A consumer that is answered twice in a row, the second time from the dictionary that the first
answer left behind, leaves this dictionary as it is. It also gets the same producer, unless the
first answer was a unique name that was made for it. The second time the dictionary has this name,
and supplies it with the consumer's own type, while it was made as a text. So for a consumer that is
no text the two answers differ, and a request that has such a consumer twice is refused.
-/
namespace ApiWiring

namespace Inference

variable {inference : Inference} {consumer : Consumer} {dictionary : Dictionary}
  {ofEndpoint : Option Dictionary}

/-- The entry by which a dictionary supplies a consumer from the unique name that was made for it.
-/
def stockedName (consumer : Consumer) : CustomPayload where
  section_ := .uuidSuffix
  type := consumer.slot.type
  name := consumer.slot.name
  isObject := consumer.slot.type == .object

/-- A unique name is the same when the dictionary supplies it exactly if the consumer is a text. -/
theorem stockedName_eq_iff :
    stockedName consumer = .uniqueName consumer.slot.name ↔ consumer.slot.type = .string := by
  constructor
  · intro same
    exact congrArg CustomPayload.type same
  · intro text
    rw [stockedName, text]
    rfl

/-- The entry of a path parameter is what the endpoint's dictionary, or else the general one, has
under its name. -/
theorem dictionaryEntry?_of_path (path : consumer.kind = .path) :
    dictionaryEntry? consumer ofEndpoint dictionary =
      ((ofEndpoint.bind (entryFor? · consumer.slot.name)).or
        (entryFor? dictionary consumer.slot.name)).map fun (section_, name) =>
          ⟨section_, consumer.slot.type, name, consumer.slot.type == .object⟩ := by
  have single : ∀ source, (dictionaryKeys consumer).findSome? (entryFor? source) =
      entryFor? source consumer.slot.name := by
    intro source
    rw [dictionaryKeys, path, List.findSome?_singleton]
  unfold dictionaryEntry?
  rw [funext single]
  congr 1
  cases ofEndpoint with
  | none => exact List.findSome?_singleton
  | some special =>
    show [special, dictionary].findSome? (entryFor? · consumer.slot.name) =
      (entryFor? special consumer.slot.name).or (entryFor? dictionary consumer.slot.name)
    rw [List.findSome?_cons, List.findSome?_singleton]
    cases entryFor? special consumer.slot.name <;> rfl

/-- A dictionary that has nothing under a name has the unique name under it once this is
registered. -/
theorem entryFor?_register {name : String} (missing : entryFor? dictionary name = none) :
    entryFor? (dictionary.register (.uniqueName name)).1 name = some (.uuidSuffix, name) := by
  rw [entryFor?, Option.or_eq_none_iff, Option.map_eq_none_iff, Option.map_eq_none_iff] at missing
  obtain ⟨noValues, noStem⟩ := missing
  have sought : DictionarySection.uuidSuffix ≠ .header := by decide
  have absent : ¬dictionary.Holds .uuidSuffix name := Dictionary.not_holds_of_key? sought noStem
  have added : name ∈ (dictionary.register (.uniqueName name)).1.keys .uuidSuffix :=
    Dictionary.mem_keys_register.mpr (.inr ⟨rfl, rfl, absent⟩)
  have stem : (dictionary.register (.uniqueName name)).1.uuidSuffix.key? name = some name :=
    Dictionary.key?_of_mem sought added
  have values : (dictionary.register (.uniqueName name)).1.custom.key? name = none := noValues
  rw [entryFor?, values, stem]
  rfl

/-- A consumer for which a unique name is made gets it from the dictionary the second time. -/
theorem find_again_of_mints (minted : inference.mints consumer dictionary ofEndpoint = true) :
    inference.find consumer (inference.find consumer dictionary ofEndpoint).2 ofEndpoint =
      (some (.dictionary (stockedName consumer)),
        (inference.find consumer dictionary ofEndpoint).2) := by
  obtain ⟨path, _, found⟩ := find_of_mints minted
  have unlinked : inference.linkedProducer? consumer = none := by
    simp only [mints, Bool.and_eq_true, Option.isNone_iff_eq_none] at minted
    exact minted.1.1.1.1
  have missing : dictionaryEntry? consumer ofEndpoint dictionary = none := by
    simp only [mints, Bool.and_eq_true, Option.isNone_iff_eq_none] at minted
    exact minted.1.1.1.2
  rw [dictionaryEntry?_of_path path, Option.map_eq_none_iff, Option.or_eq_none_iff] at missing
  have stocked : dictionaryEntry? consumer ofEndpoint
      (dictionary.register (.uniqueName consumer.slot.name)).1 = some (stockedName consumer) := by
    rw [dictionaryEntry?_of_path path, missing.1, entryFor?_register missing.2]
    rfl
  rw [found]
  exact find_of_entry unlinked stocked

/-- The dictionary changes exactly when a unique name is made. -/
theorem mints_iff :
    inference.mints consumer dictionary ofEndpoint = true ↔
      (inference.find consumer dictionary ofEndpoint).2 ≠ dictionary := by
  constructor
  · intro minted unchanged
    obtain ⟨_, absent, found⟩ := find_of_mints minted
    have held := Dictionary.holds_register dictionary (.uniqueName consumer.slot.name)
    rw [congrArg Prod.snd found] at unchanged
    dsimp only at unchanged
    rw [unchanged] at held
    exact absent held
  · intro changed
    by_contra unminted
    exact changed (dictionary_of_not_mints (Bool.eq_false_iff.mpr unminted))

end Inference

/-! ## Taking up both answers -/

namespace Connection

variable {left right : Connection}

/-- A connection gives its consumer one producer. -/
theorem not_conflicts_self (connection : Connection) : ¬connection.Conflicts connection := by
  rintro ⟨key, current, attempted, ⟨_, given⟩, ⟨_, givenToo⟩, differ⟩
  exact differ (Option.some.inj (given.symm.trans givenToo))

/-- Of two connections that conflict, either conflicts with the other one. -/
theorem Conflicts.symm (conflict : left.Conflicts right) : right.Conflicts left := by
  obtain ⟨key, current, attempted, gives, givesToo, differ⟩ := conflict
  exact ⟨key, attempted, current, givesToo, gives, Ne.symm differ⟩

/-- Of two connections some two conflict exactly when they do. -/
theorem exists_conflict_iff :
    (∃ first ∈ [left, right], ∃ second ∈ [left, right], first.Conflicts second) ↔
      left.Conflicts right := by
  constructor
  · rintro ⟨first, inFirst, second, inSecond, conflict⟩
    rcases List.mem_pair.mp inFirst with rfl | rfl <;>
      rcases List.mem_pair.mp inSecond with rfl | rfl
    · exact absurd conflict (not_conflicts_self _)
    · exact conflict
    · exact conflict.symm
    · exact absurd conflict (not_conflicts_self _)
  · intro conflict
    exact ⟨left, .head _, right, .tail _ (.head _), conflict⟩

end Connection

namespace Passes

variable {wired : Wired} {consumer : Consumer} {first second : Option Producer}

/-- Taking up what a request inferred is refused when its connections are. -/
theorem takeUp_fails_iff (inferred : List Connection × Dictionary) :
    (∃ failure, takeUp wired inferred = .error failure) ↔ ∃ failure,
      connectAll (wired.dictionary.mergeMissing inferred.2).1 wired.wiring inferred.1 =
        .error failure := by
  refine exists_congr fun failure => ?_
  rw [takeUp, Outcome.bind_eq_error_iff]
  constructor
  · rintro (refused | ⟨wiring, _, built⟩)
    · exact refused
    · cases built
  · exact .inl

/-- Taking up two answers to a new consumer is refused exactly when they conflict as they are spelled
in the dictionary with what was added. -/
theorem takeUp_pair_fails_iff (unknown : ¬wired.wiring.Knows consumer.key) (after : Dictionary) :
    (∃ failure, takeUp wired ([⟨consumer, first⟩, ⟨consumer, second⟩], after) = .error failure) ↔
      (Connection.respelled ⟨consumer, first⟩ (wired.dictionary.mergeMissing after).1).Conflicts
        (Connection.respelled ⟨consumer, second⟩ (wired.dictionary.mergeMissing after).1) := by
  rw [takeUp_fails_iff, connectAll_eq, ← Connection.exists_conflict_iff]
  refine Wiring.connectEach_fails_iff fun connection listed => ?_
  have missing : wired.wiring.producerAt? consumer.key = none := by
    rw [Wiring.producerAt?, Option.not_isSome_iff_eq_none.mp unknown, Option.bind_none]
  rcases List.mem_pair.mp listed with rfl | rfl
  · rwa [Connection.consumer_respelled]
  · rwa [Connection.consumer_respelled]

/-- A request that has a new consumer twice is refused exactly when the two answers to it conflict,
as they are spelled in the dictionary with what was added. -/
theorem takeUp_twice_fails_iff {inference : Inference} {ofEndpoint : Option Dictionary}
    {dictionary : Dictionary} {answer again : Option Producer × Dictionary}
    (unknown : ¬wired.wiring.Knows consumer.key)
    (answered : inference.find consumer dictionary ofEndpoint = answer)
    (answeredAgain : inference.find consumer answer.2 ofEndpoint = again) :
    (∃ failure, takeUp wired (inferAll inference ofEndpoint dictionary [consumer, consumer]) =
        .error failure) ↔
      (Connection.respelled ⟨consumer, answer.1⟩ (wired.dictionary.mergeMissing again.2).1).Conflicts
        (Connection.respelled ⟨consumer, again.1⟩ (wired.dictionary.mergeMissing again.2).1) := by
  rw [inferAll_cons, inferAll_cons, answered, answeredAgain]
  exact takeUp_pair_fails_iff unknown again.2

end Passes

namespace Inference

variable {inference : Inference} {consumer : Consumer} {dictionary : Dictionary}
  {ofEndpoint : Option Dictionary}

/-- Two entries for one consumer that differ in their type at least conflict, however they are
spelled. -/
theorem conflicts_of_entries {left right : CustomPayload} (differ : left.type ≠ right.type)
    (merged : Dictionary) :
    (Connection.respelled ⟨consumer, some (.dictionary left)⟩ merged).Conflicts
      (Connection.respelled ⟨consumer, some (.dictionary right)⟩ merged) := by
  refine ⟨consumer.key, _, _, ⟨rfl, rfl⟩, ⟨rfl, rfl⟩, fun same => differ ?_⟩
  have respelled : left.respelled merged = right.respelled merged := Producer.dictionary.inj same
  have types : (left.respelled merged).type = (right.respelled merged).type := by rw [respelled]
  exact types

/-- What a second answer is like. A consumer that is answered twice in a row, the second time from
the dictionary that the first answer left behind, leaves this dictionary as it is. The two answers
are equal exactly if the first one left the dictionary as it was or the consumer is a text. If it
changed the dictionary, the consumer is a path parameter for which a unique name was made, and the
second answer is this name with the consumer's own type. So a request that has a consumer twice is
refused, where the wiring does not know the consumer, exactly if a unique name is made for it and it
is no text. -/
theorem find_again (inference : Inference) (consumer : Consumer) (dictionary : Dictionary)
    (ofEndpoint : Option Dictionary) :
    let answer := inference.find consumer dictionary ofEndpoint
    let again := inference.find consumer answer.2 ofEndpoint
    again.2 = answer.2 ∧
    (again.1 = answer.1 ↔ answer.2 = dictionary ∨ consumer.slot.type = .string) ∧
    (answer.2 ≠ dictionary → consumer.kind = .path ∧
      answer.1 = some (.dictionary (.uniqueName consumer.slot.name)) ∧
      again.1 = some (.dictionary (stockedName consumer))) ∧
    ∀ wired : Wired, ¬wired.wiring.Knows consumer.key →
      ((∃ failure, Passes.takeUp wired
          (Passes.inferAll inference ofEndpoint dictionary [consumer, consumer]) =
            .error failure) ↔
        answer.2 ≠ dictionary ∧ consumer.slot.type ≠ .string) := by
  intro answer again
  have refused_iff := fun (wired : Wired) (unknown : ¬wired.wiring.Knows consumer.key) =>
    Passes.takeUp_twice_fails_iff unknown (Eq.refl answer) (Eq.refl again)
  cases minted : inference.mints consumer dictionary ofEndpoint with
  | true =>
    obtain ⟨path, _, found⟩ := find_of_mints minted
    have changed : answer.2 ≠ dictionary := mints_iff.mp minted
    have first : answer.1 = some (.dictionary (.uniqueName consumer.slot.name)) :=
      congrArg Prod.fst found
    have refound : again = (some (.dictionary (stockedName consumer)), answer.2) :=
      find_again_of_mints minted
    have second : again.1 = some (.dictionary (stockedName consumer)) := by rw [refound]
    have kept : again.2 = answer.2 := by rw [refound]
    have same_iff : again.1 = answer.1 ↔ consumer.slot.type = .string := by
      rw [first, second, Option.some.injEq, Producer.dictionary.injEq, stockedName_eq_iff]
    refine ⟨kept, ?_, fun _ => ⟨path, first, second⟩, fun wired unknown => ?_⟩
    · rw [same_iff, or_iff_right changed]
    · rw [refused_iff wired unknown, and_iff_right changed]
      constructor
      · intro conflict text
        rw [same_iff.mpr text] at conflict
        exact Connection.not_conflicts_self _ conflict
      · intro noText
        rw [first, second]
        exact conflicts_of_entries (Ne.symm noText) _
  | false =>
    have kept : answer.2 = dictionary := dictionary_of_not_mints minted
    have same : again = answer := congrArg (inference.find consumer · ofEndpoint) kept
    refine ⟨congrArg Prod.snd same, ?_, fun changed => absurd kept changed, fun wired unknown => ?_⟩
    · exact iff_of_true (congrArg Prod.fst same) (.inl kept)
    · rw [refused_iff wired unknown, same]
      exact iff_of_false (Connection.not_conflicts_self _) fun refused => refused.1 kept

/-- The parameter that names an item, of a request that puts the item in its place. -/
def putItem (type : PrimitiveType) : Consumer :=
  .plain (.ofPathParameter ⟨"/items/{itemId}", .put⟩ "itemId" type none) .path

/-- The inference without any producers. -/
def withoutProducers : Inference := ⟨.empty, false⟩

/-- A text gets the same answer twice, and a request that has it twice is taken up. -/
theorem putItem_find_again :
    let answer := withoutProducers.find (putItem .string) .empty none
    ¬Wiring.empty.Knows (putItem .string).key ∧ answer.2 ≠ .empty ∧
    (withoutProducers.find (putItem .string) answer.2 none).1 = answer.1 ∧
    ¬∃ failure, Passes.takeUp ⟨.empty, .empty⟩ (Passes.inferAll withoutProducers none .empty
      [putItem .string, putItem .string]) = .error failure := by
  obtain ⟨_, same_iff, _, refused_iff⟩ := find_again withoutProducers (putItem .string) .empty none
  have minted : withoutProducers.mints (putItem .string) .empty none = true := by decide +kernel
  have unknown : ¬Wiring.empty.Knows (putItem .string).key := Wiring.not_knows_empty
  refine ⟨unknown, mints_iff.mp minted, same_iff.mpr (.inr rfl), fun refused => ?_⟩
  exact ((refused_iff ⟨.empty, .empty⟩ unknown).mp refused).2 rfl

/-- A number gets different answers, and a request that has it twice is refused. -/
theorem not_same_putItem_again :
    let answer := withoutProducers.find (putItem .int) .empty none
    let again := withoutProducers.find (putItem .int) answer.2 none
    answer.2 ≠ .empty ∧
    answer.1 = some (.dictionary ⟨.uuidSuffix, .string, "itemId", false⟩) ∧
    again.1 = some (.dictionary ⟨.uuidSuffix, .int, "itemId", false⟩) ∧ again.1 ≠ answer.1 ∧
    ∃ failure, Passes.takeUp ⟨.empty, .empty⟩ (Passes.inferAll withoutProducers none .empty
      [putItem .int, putItem .int]) = .error failure := by
  have minted : withoutProducers.mints (putItem .int) .empty none = true := by decide +kernel
  have first := congrArg Prod.fst (find_of_mints minted).2.2
  have second := congrArg Prod.fst (find_again_of_mints minted)
  refine ⟨mints_iff.mp minted, first, second, ?_, ?_⟩
  · rw [first, second]
    decide
  · rw [Passes.takeUp_twice_fails_iff Wiring.not_knows_empty rfl rfl, first, second]
    exact conflicts_of_entries (by decide) _

end Inference

end ApiWiring
