import ApiWiring.Proofs.Wiring.Overrides

/-!
# The unique names of the second pass

What the second pass adds to the dictionary are the unique names of its pairs. The property that
gets one is called `name` and has a container, of which the unique name is made; after the pass it
supplies another value of its body, and its entry is the unique name as the dictionary spells it.
-/
namespace ApiWiring.Passes

variable {setting : Setting} {surveys : List Survey} {wired : Wired} {progress : Progress}
  {key : ConsumerKey}

/-- Only a value of a body supplies another one of its body. -/
theorem Supplies.kind {wiring : Wiring} (supplies : Supplies wiring key) : key.kind = .body := by
  obtain ⟨_, _, _, _, rfl⟩ := supplies
  rfl

/-- A property that supplies another one of its body is called `name` and has the unique name made
of its container, as the dictionary spells it. -/
theorem settled_of_supplied (surveyed : Passes.surveys setting = .ok surveys)
    (started : first setting surveys = .ok wired)
    (finished : second (inference setting surveys) surveys wired = .ok progress)
    {connection : Connection} (member : connection ∈ progress.wired.wiring.connections)
    {slot : Slot} (supplied : connection.producer? = some (.sibling slot)) :
    slot.name = "name" ∧ slot.InBody slot.request setting.options.convention ∧
      ∃ container, slot.containerName? = some container ∧
        Settled (Consumer.plain slot .body).key (siblingEntry container slot) progress := by
  have origins := origin_of_second (origin_of_first _ started).2 finished
  obtain ⟨sought, container, named, paired⟩ :=
    (origins.2 connection member).partner surveyed supplied
  obtain ⟨_, _, called, inBody⟩ := sibling_of_sibling? surveyed sought
  have own := inBody
  rw [← inBody.1] at own
  exact ⟨called, own, container, named,
    settled_of_second surveyed finished inBody called named paired⟩

/-- A value that supplies another one of its body has a unique name as the dictionary spells it. -/
theorem holds_of_supplies (surveyed : Passes.surveys setting = .ok surveys)
    (started : first setting surveys = .ok wired)
    (finished : second (inference setting surveys) surveys wired = .ok progress)
    (supplies : Supplies progress.wired.wiring key) :
    ∃ entry, progress.wired.wiring.producerAt? key = some (.dictionary entry) ∧
      progress.wired.dictionary.Holds entry.section_ entry.name := by
  obtain ⟨connection, member, slot, given, rfl⟩ := supplies
  obtain ⟨_, _, _, _, stored, found, settled⟩ :=
    settled_of_supplied surveyed started finished member given
  exact ⟨_, settled, .of_mem (Dictionary.mem_keys_of_key? found).1⟩

/-- A pair of the second pass is for a key that a value of the body supplies, or for one that
supplies another value. -/
theorem bySibling_or_supplies (surveyed : Passes.surveys setting = .ok surveys)
    (started : first setting surveys = .ok wired)
    (finished : second (inference setting surveys) surveys wired = .ok progress) {raw : Connection}
    (paired : raw ∈ pairs setting surveys wired.wiring) :
    (∃ survey ∈ surveys, raw.consumer ∈ survey.consumers ∧
      wired.wiring.producerAt? raw.consumer.key = none ∧ raw ∈
        siblingConnections (inference setting surveys) wired.wiring raw.consumer ∧
          ∃ slot, raw.producer? = some (.sibling slot) ∧
            progress.wired.wiring.producerAt? raw.consumer.key = some (.sibling slot)) ∨
      Supplies progress.wired.wiring raw.consumer.key := by
  obtain ⟨survey, listed, consumer, inside, made⟩ := mem_pairs.mp paired
  obtain ⟨slot, container, _, _, rfl | rfl, _⟩ := pair_of_mem_siblingConnections made
  · exact .inl ⟨survey, listed, inside, unsupplied_of_mem_siblingConnections made, made, slot, rfl,
      producerAt?_of_second surveyed finished paired rfl⟩
  · exact .inr ((supplies_iff surveyed started finished).mpr ⟨_, paired, rfl, rfl⟩)

/-- The property to which a pair gives a unique name is the sibling of the consumer of the pair, and
the container in the unique name is its container. -/
theorem partner_of_mem_siblingConnections {inference : Inference} {early : Wiring}
    {consumer : Consumer} {slot : Slot} {container : String}
    (made : ⟨.plain slot .body, some (.dictionary (siblingEntry container slot))⟩ ∈
      siblingConnections inference early consumer) :
    inference.sibling? consumer = some slot ∧ slot.containerName? = some container ∧
      ⟨consumer, some (.sibling slot)⟩ ∈ siblingConnections inference early consumer := by
  obtain ⟨other, around, sought, named, spoken, pair⟩ := pair_of_mem_siblingConnections made
  have identity : ⟨consumer, some (.sibling other)⟩ ∈
      siblingConnections inference early consumer := by
    rw [pair]
    exact .head _
  rcases spoken with first | second
  · cases first
  · simp only [Connection.mk.injEq, Consumer.plain, Consumer.mk.injEq, Option.some.injEq,
      Producer.dictionary.injEq, siblingEntry, CustomPayload.uniqueName, CustomPayload.mk.injEq,
      and_true, true_and] at second
    obtain ⟨rfl, same⟩ := second
    rw [String.append_left_inj, String.append_left_inj] at same
    rw [same]
    exact ⟨sought, named, identity⟩

/-- Whether a name is a unique name of a pair and its section did not hold it before the second
pass. -/
structure NewByPair (setting : Setting) (surveys : List Survey) (wired : Wired)
    (from_ : DictionarySection) (name : String) : Prop where
  /-- It is among the stems of unique names. -/
  section_ : from_ = .uuidSuffix
  /-- It was not held. -/
  unheld : ¬wired.dictionary.Holds .uuidSuffix name
  /-- A pair gives it to a property. -/
  paired : ∃ slot container,
    ⟨.plain slot .body, some (.dictionary (siblingEntry container slot))⟩ ∈
        pairs setting surveys wired.wiring ∧ (siblingEntry container slot).name = name

/-- The keys that the second pass adds are unique names of pairs. -/
theorem new_of_second (finished : second (inference setting surveys) surveys wired = .ok progress)
    {from_ : DictionarySection} {name : String}
    (member : name ∈ progress.wired.dictionary.keys from_) :
    name ∈ wired.dictionary.keys from_ ∨ NewByPair setting surveys wired from_ name := by
  have kept := Outcome.foldlM_keeps (fun state : Progress =>
    state.wired.dictionary.Extends wired.dictionary ∧
      ∀ from_ name, name ∈ state.wired.dictionary.keys from_ →
        name ∈ wired.dictionary.keys from_ ∨ NewByPair setting surveys wired from_ name)
    ?_ ⟨.refl _, fun _ _ old => .inl old⟩ finished
  · exact kept.2 from_ name member
  rintro state raw next paired ⟨grown, known⟩ stepped
  obtain ⟨registering, _⟩ := retake_eq_ok stepped
  rw [registering]
  refine ⟨(extends_registered _ _).trans grown, fun from_ name added => ?_⟩
  obtain ⟨_, _, _, _, made⟩ := mem_pairs.mp paired
  obtain ⟨slot, container, _, _, rfl | rfl, _⟩ := pair_of_mem_siblingConnections made
  · exact known from_ name added
  · rw [registered, Connection.producer?_respelled_of_dictionary rfl] at added
    rcases Dictionary.mem_keys_register.mp added with old | ⟨rfl, rfl, unheld⟩
    · exact known from_ _ old
    · -- The entry was not held under any spelling, so it has the one it was made with.
      have absent : ¬state.wired.dictionary.Holds (siblingEntry container slot).section_
          (siblingEntry container slot).name := fun held =>
        unheld (held.congr (CustomPayload.name_respelled _ _).symm)
      rw [CustomPayload.respelled_of_not_holds absent]
      exact .inr ⟨rfl, fun held => absent (grown.holds held), slot, container, paired, rfl⟩

end ApiWiring.Passes
