import ApiWiring.Proofs.Wiring.Overrides

/-!
# Inference from a dictionary that has it all

The rules that go by names do not look at the dictionary; only the unique name that they make is
spelled as it is there and added to it. So if a consumer is answered once more, from a dictionary
that holds what the first answer left behind, nothing is added: a response stays or gives way to an
entry, an entry stays an entry, and what had no producer has at most an entry now (`Again`). By
consumers and requests this passes on to the wirings of two first passes, of which the second starts
from a dictionary that grew out of the result of the first.
-/
namespace ApiWiring

open Text

/-! ## One consumer -/

/-- What became of the producer of a consumer when it was sought again, in a given dictionary. -/
inductive Again (final : Dictionary) : Option Producer → Option Producer → Prop where
  /-- It is no dictionary entry and the same. -/
  | same (producer? : Option Producer) (plain : ∀ entry, producer? ≠ some (.dictionary entry)) :
    Again final producer? producer?
  /-- It was an entry of the endpoint's dictionary and is this entry, in some spelling. -/
  | special (first second : CustomPayload) (placed : second.section_ = first.section_)
    (alike : EqualIgnoringCase second.name first.name) :
    Again final (some (.dictionary first)) (some (.dictionary second))
  /-- It is an entry that the dictionary holds. -/
  | stocked (before : Option Producer) (second : CustomPayload)
    (held : final.Holds second.section_ second.name) :
    Again final before (some (.dictionary second))

namespace Again

variable {final : Dictionary} {first second : Option Producer}

/-- What had no producer may have none again. -/
theorem missing : Again final none none := .same _ (by simp)

/-- A slot of a response may be there again. -/
theorem response (slot : Slot) :
    Again final (some (.response slot)) (some (.response slot)) := .same _ (by simp)

/-- What had a producer has one again. -/
theorem isSome (again : Again final first second) (had : first.isSome) : second.isSome := by
  cases again with
  | same => exact had
  | special => rfl
  | stocked => rfl

/-- What has no producer again had none. -/
theorem eq_none (again : Again final first second) (missing : second = none) : first = none := by
  cases again with
  | same => exact missing
  | special => cases missing
  | stocked => cases missing

/-- What had an entry has one again. -/
theorem isDictionary (again : Again final first second) {entry : CustomPayload}
    (had : first = some (.dictionary entry)) : ∃ other, second = some (.dictionary other) := by
  cases again with
  | same _ plain => exact absurd had (plain entry)
  | special _ other => exact ⟨other, rfl⟩
  | stocked _ other => exact ⟨other, rfl⟩

/-- A producer that is no entry was the same before. -/
theorem eq_of_settled (again : Again final first second) {producer : Producer}
    (has : second = some producer) (settled : producer.isDictionary = false) :
    first = some producer := by
  cases again with
  | same => exact has
  | special | stocked =>
    cases has
    cases settled

/-- Taking spellings from dictionaries changes nothing about it. -/
theorem respelled {left right : Connection} (again : Again final left.producer? right.producer?)
    (earlier later : Dictionary) :
    Again final (left.respelled earlier).producer? (right.respelled later).producer? := by
  generalize had : left.producer? = first at again
  generalize has : right.producer? = second at again
  cases again with
  | same _ plain =>
    have unspelled : ∀ {connection : Connection} (dictionary : Dictionary),
        connection.producer? = first → (connection.respelled dictionary).producer? = first := by
      intro connection dictionary given
      unfold Connection.respelled
      split
      · rename_i entry listed
        exact absurd (given.symm.trans listed) (plain entry)
      · exact given
    rw [unspelled earlier had, unspelled later has]
    exact .same first plain
  | special first second placed alike =>
    rw [Connection.producer?_respelled_of_dictionary had,
      Connection.producer?_respelled_of_dictionary has]
    have spelled := (CustomPayload.name_respelled second later).trans
      (alike.trans (CustomPayload.name_respelled first earlier).symm)
    exact .special _ _ placed spelled
  | stocked before second held =>
    rw [Connection.producer?_respelled_of_dictionary has]
    exact .stocked _ _ (held.congr (CustomPayload.name_respelled second later).symm)

end Again

namespace Inference

variable {inference : Inference} {consumer : Consumer} {own : Option Dictionary}
  {before after final : Dictionary} {first : Option Producer}

/-- What the rules by names find, whatever the dictionary. -/
inductive Finding where
  /-- A slot of a response. -/
  | response (slot : Slot)
  /-- That the consumer gets a unique name. -/
  | uniqueName

/-- The producer of a consumer by a finding, with the dictionary after it. -/
def Finding.taken (consumer : Consumer) (dictionary : Dictionary) :
    Finding → Producer × Dictionary
  | .response slot => (.response slot, dictionary)
  | .uniqueName =>
    let entry := Inference.uniqueName consumer dictionary
    (.dictionary entry, (dictionary.register entry).1)

/-- What is found by a name does not depend on the dictionary. -/
theorem exists_finding (inference : Inference) (consumer : Consumer) (name : String) :
    ∃ finding? : Option Finding, ∀ dictionary,
      inference.namedProducer? consumer dictionary name =
        finding?.map (·.taken consumer dictionary) := by
  unfold namedProducer?
  split
  · unfold pathProducer?
    split
    · exact ⟨some (.response _), fun _ => rfl⟩
    · split
      · exact ⟨some .uniqueName, fun _ => rfl⟩
      · refine ⟨((inference.created? consumer name).or
          (inference.atSimilarEndpoint consumer name).head?).map .response, fun _ => ?_⟩
        rw [Option.map_map]
        rfl
  all_goals
    refine ⟨(inference.valueProducer? consumer name).map .response, fun _ => ?_⟩
    rw [Option.map_map]
    rfl

/-- What is found by the first of several names that finds anything does not depend on the
dictionary. -/
theorem exists_finding_of_names (inference : Inference) (consumer : Consumer)
    (names : List String) : ∃ finding? : Option Finding, ∀ dictionary,
      names.findSome? (inference.namedProducer? consumer dictionary) =
        finding?.map (·.taken consumer dictionary) := by
  induction names with
  | nil => exact ⟨none, fun _ => rfl⟩
  | cons name rest ih =>
    obtain ⟨here?, found⟩ := inference.exists_finding consumer name
    obtain ⟨later?, rested⟩ := ih
    refine ⟨here?.or later?, fun dictionary => ?_⟩
    rw [List.findSome?_cons, found, rested]
    cases here? <;> rfl

/-- The name of a consumer is one of the keys under which the dictionary may have its value. -/
theorem name_mem_dictionaryKeys (consumer : Consumer) :
    consumer.slot.name ∈ dictionaryKeys consumer := by
  unfold dictionaryKeys
  split <;> simp

/-- The unique name of a consumer is its name, in some spelling. -/
theorem name_uniqueName (consumer : Consumer) (dictionary : Dictionary) :
    EqualIgnoringCase (uniqueName consumer dictionary).name consumer.slot.name := by
  change EqualIgnoringCase ((dictionary.uuidSuffix.key? consumer.slot.name).getD _) _
  cases stored : dictionary.uuidSuffix.key? consumer.slot.name with
  | none => rfl
  | some key => exact (Entries.mem_keys_of_key? stored).2

/-- A consumer whose name is among the stems of unique names has an entry. -/
theorem dictionaryEntry?_isSome_of_holds
    (held : final.Holds .uuidSuffix consumer.slot.name) :
    dictionaryEntry? consumer own final ≠ none := by
  intro missing
  have listed : (⟨false, consumer.slot.name, .uuidSuffix⟩ : Place) ∈ consumer.places := by
    refine List.mem_flatMap.mpr ⟨false, by decide, ?_⟩
    exact List.mem_flatMap.mpr ⟨_, name_mem_dictionaryKeys consumer, .tail _ (.head _)⟩
  exact Place.dictionaryEntry?_eq_none_iff.mp missing _ listed ⟨final, rfl, held⟩

/-- Where no link supplies a consumer and the dictionary has no entry for it, it is answered by its
names. -/
theorem find_of_names (unlinked : inference.linkedProducer? consumer = none)
    (missing : dictionaryEntry? consumer own before = none) :
    inference.find consumer before own =
      (consumer.candidateNames.findSome? (inference.namedProducer? consumer before)).elim
        (none, before) fun found => (some found.1, found.2) := by
  simp only [find, unlinked, inferred?, missing]
  cases consumer.candidateNames.findSome? (inference.namedProducer? consumer before) <;> rfl

/-- Where no link supplies a consumer and the dictionary has an entry for it, it gets this entry. -/
theorem find_of_entry {entry : CustomPayload}
    (unlinked : inference.linkedProducer? consumer = none)
    (stocked : dictionaryEntry? consumer own before = some entry) :
    inference.find consumer before own = (some (.dictionary entry), before) := by
  simp only [find, unlinked, inferred?, stocked]

/-- An entry that a path parameter gets has the name of the parameter. -/
theorem name_of_find {entry : CustomPayload} (path : consumer.kind = .path)
    (found : (inference.find consumer before own).1 = some (.dictionary entry)) :
    entry.section_ ≠ .header ∧ EqualIgnoringCase entry.name consumer.slot.name := by
  cases linked : inference.linkedProducer? consumer with
  | some slot =>
    simp only [find, linked] at found
    cases found
  | none =>
    cases stocked : dictionaryEntry? consumer own before with
    | some stockedEntry =>
      rw [find_of_entry linked stocked] at found
      cases found
      obtain ⟨place, ⟨_, _, listed, _⟩, gives⟩ := Place.exists_isFirst_of_entry stocked
      have member : place ∈ consumer.places := by
        rw [listed]
        exact List.mem_append_right _ (.head _)
      have keyed : place.key = consumer.slot.name := by
        simp only [Consumer.places, dictionaryKeys, path, List.mem_flatMap, List.mem_singleton,
          List.mem_pair] at member
        obtain ⟨_, _, _, rfl, rfl | rfl⟩ := member <;> rfl
      have name := gives.name
      rw [keyed] at name
      rw [gives.section_]
      exact ⟨Place.section_ne_header member, name⟩
    | none =>
      obtain ⟨finding?, named⟩ :=
        inference.exists_finding_of_names consumer consumer.candidateNames
      rw [find_of_names linked stocked, named] at found
      rcases finding? with _ | slot | _
      · cases found
      · cases found
      · cases found
        exact ⟨CustomPayload.section_uniqueName_ne_header _, name_uniqueName consumer before⟩

/-- A consumer with an entry in a dictionary that holds more than another one had this entry there
already, or the dictionary holds it. -/
theorem again_of_entry {entry : CustomPayload}
    (unlinked : inference.linkedProducer? consumer = none)
    (found : inference.find consumer before own = (first, after))
    (kept : ∀ from_ key, before.Holds from_ key → final.Holds from_ key)
    (stocked : dictionaryEntry? consumer own final = some entry) :
    Again final first (some (.dictionary entry)) := by
  obtain ⟨place, isFirst, gives⟩ := Place.exists_isFirst_of_entry stocked
  cases special : place.special with
  | true =>
    obtain ⟨other, there, gave⟩ := (isFirst.of_special special kept).entry
    rw [find_of_entry unlinked there] at found
    cases found
    exact .special other entry (gives.section_.trans gave.section_.symm)
      (gives.name.trans gave.name.symm)
  | false =>
    obtain ⟨_, _, _, ⟨source, given, held⟩, _⟩ := isFirst
    rw [special] at given
    cases given
    have spelled := held.congr gives.name.symm
    rw [← gives.section_] at spelled
    exact .stocked first entry spelled

/-- A consumer that is answered again, from a dictionary that holds what the first answer left
behind, leaves this dictionary as it is. -/
theorem again_of_find (apart : consumer.LinkedElsewhere)
    (found : inference.find consumer before own = (first, after))
    (kept : ∀ from_ key, after.Holds from_ key → final.Holds from_ key) :
    ∃ second, inference.find consumer final own = (second, final) ∧ Again final first second := by
  have keptBefore : ∀ from_ key, before.Holds from_ key → final.Holds from_ key := by
    intro from_ key held
    have grown : (inference.find consumer before own).2.Extends before := extends_find apart
    rw [found] at grown
    exact kept from_ key (grown.holds held)
  cases linked : inference.linkedProducer? consumer with
  | some slot =>
    have always : ∀ dictionary, inference.find consumer dictionary own =
        (some (.response slot), dictionary) := by
      intro dictionary
      simp only [find, linked]
    rw [always] at found
    cases found
    exact ⟨_, always final, .response slot⟩
  | none =>
    cases stocked : dictionaryEntry? consumer own final with
    | some entry =>
      exact ⟨_, find_of_entry linked stocked, again_of_entry linked found keptBefore stocked⟩
    | none =>
      -- What the larger dictionary does not have the smaller one did not have either.
      have missing : dictionaryEntry? consumer own before = none := by
        rw [Place.dictionaryEntry?_eq_none_iff] at stocked ⊢
        exact fun place listed there => stocked place listed (there.of_kept keptBefore)
      obtain ⟨finding?, named⟩ :=
        inference.exists_finding_of_names consumer consumer.candidateNames
      rw [find_of_names linked missing, named] at found
      rw [find_of_names linked stocked, named]
      rcases finding? with _ | slot | _
      · cases found
        exact ⟨_, rfl, .missing⟩
      · cases found
        exact ⟨_, rfl, .response slot⟩
      · cases found
        have held := Dictionary.holds_register before (uniqueName consumer before)
        have name := (kept _ _ held).congr (name_uniqueName consumer before)
        exact absurd stocked (dictionaryEntry?_isSome_of_holds name)

end Inference

/-! ## The first pass -/

/-- A setting with another starting dictionary. -/
def Setting.startingWith (setting : Setting) (dictionary : Dictionary) : Setting :=
  { setting with dictionary }

namespace Passes

variable {setting : Setting} {surveys : List Survey} {survey : Survey} {final : Dictionary}
  {wired again : Wired} {key : ConsumerKey} {producer : Producer}

/-- Whether a connection is for the consumer of another one, whose producer was sought again. -/
def Reanswers (final : Dictionary) (raw other : Connection) : Prop :=
  other.consumer = raw.consumer ∧ Again final raw.producer? other.producer?

/-- Consumers that are answered again, from a dictionary that holds what the first answers left
behind, leave this dictionary as it is. -/
theorem again_of_inferAll {inference : Inference} {own : Option Dictionary}
    {consumers : List Consumer} (apart : ∀ consumer ∈ consumers, consumer.LinkedElsewhere)
    {start : Dictionary} (kept : ∀ from_ key,
      (inferAll inference own start consumers).2.Holds from_ key → final.Holds from_ key) :
    (inferAll inference own final consumers).2 = final ∧
      List.Forall₂ (Reanswers final) (inferAll inference own start consumers).1
        (inferAll inference own final consumers).1 := by
  induction consumers generalizing start with
  | nil => exact ⟨rfl, .nil⟩
  | cons consumer rest ih =>
    obtain ⟨here, later⟩ := List.forall_mem_cons.mp apart
    have answered := inferAll_cons inference own start consumer rest
    have reanswered := inferAll_cons inference own final consumer rest
    cases found : inference.find consumer start own with
    | mk first after =>
      rw [found] at answered
      rw [answered] at kept ⊢
      obtain ⟨second, refound, again⟩ := Inference.again_of_find here found fun from_ key held =>
        kept from_ key ((extends_inferAll later after).holds held)
      obtain ⟨left, others⟩ := ih later kept
      rw [reanswered, refound]
      exact ⟨left, .cons ⟨rfl, again⟩ others⟩

/-- Whether a dictionary holds what the requests add to their own copies of the starting one. -/
def HoldsInferred (setting : Setting) (surveys : List Survey) (final : Dictionary) : Prop :=
  ∀ survey ∈ surveys, ∀ from_ key,
    (inferRequest setting (inference setting surveys) survey).2.Holds from_ key →
      final.Holds from_ key

/-- What grew out of the dictionary of the first pass holds what the requests added. -/
theorem holdsInferred_of_first (done : first setting surveys = .ok wired)
    (grown : final.Extends wired.dictionary) : HoldsInferred setting surveys final := by
  intro survey listed from_ key held
  refine grown.holds (Outcome.foldlM_settles (fun state : Wired => state.dictionary.Holds from_ key)
    (List.mem_map_of_mem listed) ?_ ?_ done)
  · intro state next stepped
    obtain ⟨wiring, _, built⟩ := Outcome.bind_eq_ok_iff.mp stepped
    cases built
    exact Dictionary.holds_mergeMissing held
  · intro state other next _ settled stepped
    obtain ⟨wiring, _, built⟩ := Outcome.bind_eq_ok_iff.mp stepped
    cases built
    exact (Dictionary.extends_mergeMissing _ _).holds settled

/-- The requests that are inferred again leave the dictionary as it is. -/
theorem again_of_inferRequest (surveyed : Passes.surveys setting = .ok surveys)
    (kept : HoldsInferred setting surveys final) (listed : survey ∈ surveys) :
    (inferRequest (setting.startingWith final) (inference setting surveys) survey).2 = final ∧
      List.Forall₂ (Reanswers final)
        (inferRequest setting (inference setting surveys) survey).1
        (inferRequest (setting.startingWith final) (inference setting surveys) survey).1 :=
  again_of_inferAll (apart_of_mem_surveys surveyed listed) (kept survey listed)

/-- The first pass adds nothing to a dictionary that holds what it added before. -/
theorem dictionary_of_first_again (surveyed : Passes.surveys setting = .ok surveys)
    (kept : HoldsInferred setting surveys final)
    (restarted : first (setting.startingWith final) surveys = .ok again) :
    again.dictionary = final := by
  refine Outcome.foldlM_keeps (fun state : Wired => state.dictionary = final) ?_ rfl restarted
  intro state inferred next listed unchanged stepped
  obtain ⟨survey, inSurveys, rfl⟩ := List.mem_map.mp listed
  obtain ⟨wiring, _, built⟩ := Outcome.bind_eq_ok_iff.mp stepped
  cases built
  have same : (inferRequest (setting.startingWith final)
      (inference (setting.startingWith final) surveys) survey).2 = final :=
    (again_of_inferRequest surveyed kept inSurveys).1
  change (state.dictionary.mergeMissing _).1 = final
  rw [same, unchanged, Dictionary.mergeMissing_self]

/-- What the first pass made the producer of a key was inferred for a consumer of this key. -/
theorem exists_raw_of_first (done : first setting surveys = .ok wired)
    (there : wired.wiring.producerAt? key = some producer) :
    ∃ survey ∈ surveys, ∃ raw ∈ (inferRequest setting (inference setting surveys) survey).1,
      ∃ merged, raw.consumer.key = key ∧ (raw.respelled merged).producer? = some producer := by
  obtain ⟨connection, found, supplied⟩ := Option.bind_eq_some_iff.mp there
  have inferred : ∀ connection ∈ wired.wiring.connections, ∃ survey ∈ surveys,
      ∃ raw ∈ (inferRequest setting (inference setting surveys) survey).1,
        ∃ merged, connection = raw.respelled merged := by
    refine Outcome.foldlM_keeps (fun state : Wired => ∀ connection ∈ state.wiring.connections,
      ∃ survey ∈ surveys, ∃ raw ∈ (inferRequest setting (inference setting surveys) survey).1,
        ∃ merged, connection = raw.respelled merged) ?_
      (fun connection member => absurd member List.not_mem_nil) done
    intro state inferred next listed known stepped connection member
    obtain ⟨survey, inSurveys, rfl⟩ := List.mem_map.mp listed
    obtain ⟨wiring, connected, built⟩ := Outcome.bind_eq_ok_iff.mp stepped
    cases built
    rcases mem_connections_connectAll connected connection member with old | ⟨raw, inside, rfl⟩
    · exact known connection old
    · exact ⟨survey, inSurveys, raw, inside, _, rfl⟩
  obtain ⟨survey, listed, raw, member, merged, rfl⟩ :=
    inferred connection (Wiring.mem_connections_of_get? found)
  refine ⟨survey, listed, raw, member, merged, ?_, supplied⟩
  rw [← Wiring.key_of_get? found, Connection.consumer_respelled]

/-- A dictionary entry that the first pass gives to a path parameter has its name. -/
theorem name_of_first (started : first setting surveys = .ok wired) (path : key.kind = .path)
    {entry : CustomPayload} (had : wired.wiring.producerAt? key = some (.dictionary entry)) :
    entry.section_ ≠ .header ∧ EqualIgnoringCase entry.name key.name := by
  obtain ⟨survey, _, raw, member, merged, rfl, given⟩ := exists_raw_of_first started had
  obtain ⟨spelled, supplied, rfl⟩ := Connection.exists_entry_of_respelled given
  obtain ⟨_, before, _, found⟩ := find_of_mem_inferAll (fun _ => True)
    (fun _ _ _ _ => trivial) trivial member
  obtain ⟨section_, name⟩ := Inference.name_of_find path (found.symm.trans supplied)
  exact ⟨section_, (CustomPayload.name_respelled spelled merged).trans name⟩

/-- Key by key, the producer that the first pass makes again is what became of the one it made. -/
theorem again_of_first (surveyed : Passes.surveys setting = .ok surveys)
    (started : first setting surveys = .ok wired) (kept : HoldsInferred setting surveys final)
    (restarted : first (setting.startingWith final) surveys = .ok again) (key : ConsumerKey) :
    Again final (wired.wiring.producerAt? key) (again.wiring.producerAt? key) := by
  cases has : again.wiring.producerAt? key with
  | none =>
    -- What had a producer would have one again.
    cases had : wired.wiring.producerAt? key with
    | none => exact .missing
    | some producer =>
      obtain ⟨survey, listed, raw, member, merged, rfl, given⟩ := exists_raw_of_first started had
      have each := (again_of_inferRequest surveyed kept listed).2
      obtain ⟨other, inside, sameConsumer, reanswered⟩ :=
        Outcome.exists_result_of_forall₂ each member
      have present : raw.producer?.isSome := by
        rw [← Connection.isSome_producer?_respelled raw merged, given]
        rfl
      obtain ⟨_, _, _, there⟩ :=
        producerAt?_of_first restarted listed inside (reanswered.isSome present)
      rw [sameConsumer, has] at there
      cases there
  | some producer =>
    obtain ⟨survey, listed, other, inside, merged, rfl, given⟩ := exists_raw_of_first restarted has
    have each := (again_of_inferRequest surveyed kept listed).2
    obtain ⟨raw, member, sameConsumer, reanswered⟩ := Outcome.exists_member_of_forall₂ each inside
    cases had : raw.producer? with
    | none =>
      -- Another consumer of the key may have had a producer, but now the key has an entry.
      have nothing : (raw.respelled final).producer? = none := by
        rw [← Option.not_isSome_iff_eq_none, Connection.isSome_producer?_respelled, had]
        exact Bool.false_ne_true
      have respelled := reanswered.respelled final merged
      rw [nothing, given] at respelled
      cases respelled with
      | stocked _ second held => exact .stocked _ second held
    | some first =>
      obtain ⟨earlier, producer, spelled, there⟩ :=
        producerAt?_of_first started listed member (Option.isSome_of_eq_some had)
      have respelled := reanswered.respelled earlier merged
      rw [spelled, given] at respelled
      rw [sameConsumer, there]
      exact respelled

end Passes

end ApiWiring
