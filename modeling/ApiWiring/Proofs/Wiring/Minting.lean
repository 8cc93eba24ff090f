import ApiWiring.Proofs.Wiring.Reinference

/-!
# Unique names that inference makes

A request that creates the resource its path parameter names gets a unique name for the parameter
where nothing else supplies it. Each request adds such names to its own copy of the starting
dictionary, so one name may be made in several spellings. To merge the copies in the order of the
requests is to register all of these names in turn (`dictionary_of_first`), and the consumers take
their spelling from the merged dictionary: the first spelling becomes the key, and the later ones
give way to it.
-/
namespace ApiWiring

open Text

namespace Inference

variable {inference : Inference} {consumer : Consumer} {dictionary : Dictionary}
  {ofEndpoint : Option Dictionary}

/-- Whether inference makes a unique name for a consumer: neither a link nor an entry of a
dictionary supplies it, its request creates the resource that it names, and the first of the names
that a producer may have has none at the endpoint before its segment. -/
def mints (inference : Inference) (consumer : Consumer) (dictionary : Dictionary)
    (ofEndpoint : Option Dictionary) : Bool :=
  (inference.linkedProducer? consumer).isNone &&
    (Option.isNone <| dictionaryEntry? consumer ofEndpoint dictionary) &&
      consumer.kind == .path && createsOwnResource consumer &&
        consumer.candidateNames.head?.any fun name =>
          (inference.atEndpointBefore consumer name).isEmpty

/-- A consumer without an entry has a unique name under its own spelling, which is new. -/
theorem uniqueName_of_missing
    (missing : dictionaryEntry? consumer ofEndpoint dictionary = none) :
    ¬dictionary.Holds .uuidSuffix consumer.slot.name ∧
      uniqueName consumer dictionary = .uniqueName consumer.slot.name := by
  have absent : ¬dictionary.Holds .uuidSuffix consumer.slot.name := fun held =>
    dictionaryEntry?_isSome_of_holds held missing
  refine ⟨absent, ?_⟩
  cases found : dictionary.uuidSuffix.key? consumer.slot.name with
  | none => rw [uniqueName, found, Option.getD_none]
  | some stored =>
    obtain ⟨member, same⟩ := Entries.mem_keys_of_key? found
    exact absurd ⟨stored, member, same⟩ absent

/-- A consumer for which a unique name is made is a path parameter, gets the name under its own
spelling, and leaves the dictionary with this entry. -/
theorem find_of_mints (minted : inference.mints consumer dictionary ofEndpoint = true) :
    consumer.kind = .path ∧ ¬dictionary.Holds .uuidSuffix consumer.slot.name ∧
      inference.find consumer dictionary ofEndpoint =
        (some (.dictionary (.uniqueName consumer.slot.name)),
          (dictionary.register (.uniqueName consumer.slot.name)).1) := by
  simp only [mints, Bool.and_eq_true, Option.isNone_iff_eq_none, beq_iff_eq,
    Option.any_eq_true] at minted
  obtain ⟨⟨⟨⟨unlinked, missing⟩, path⟩, creates⟩, name, leading, nothing⟩ := minted
  obtain ⟨absent, spelled⟩ := uniqueName_of_missing missing
  obtain ⟨others, listed⟩ := List.head?_eq_some_iff.mp leading
  rw [List.isEmpty_iff] at nothing
  have here : inference.namedProducer? consumer dictionary name =
      some (.dictionary (.uniqueName consumer.slot.name),
        (dictionary.register (.uniqueName consumer.slot.name)).1) := by
    simp only [namedProducer?, path, pathProducer?, nothing, List.head?_nil, creates, if_true,
      spelled]
  refine ⟨path, absent, ?_⟩
  rw [find_of_names unlinked missing, listed, List.findSome?_cons, here]
  rfl

/-- Of the rules that go by names only the one for path parameters of creating requests changes the
dictionary, and only where no response at the endpoint before the segment produces the name. -/
theorem dictionary_of_namedProducer? {name : String} {producer : Producer} {after : Dictionary}
    (named : inference.namedProducer? consumer dictionary name = some (producer, after))
    (other : consumer.kind = .path → createsOwnResource consumer = true →
      inference.atEndpointBefore consumer name ≠ []) : after = dictionary := by
  cases path : consumer.kind with
  | query | body =>
    simp only [namedProducer?, path, Option.map_eq_some_iff, Prod.mk.injEq] at named
    obtain ⟨_, _, _, same⟩ := named
    exact same.symm
  | path =>
    simp only [namedProducer?, path, pathProducer?] at named
    cases answers : inference.atEndpointBefore consumer name with
    | cons slot rest =>
      simp only [answers, List.head?_cons, Option.some.injEq, Prod.mk.injEq] at named
      exact named.2.symm
    | nil =>
      have foreign : createsOwnResource consumer = false := by
        rw [← Bool.not_eq_true]
        exact fun creates => other path creates answers
      simp only [answers, List.head?_nil, foreign, Bool.false_eq_true, if_false,
        Option.map_eq_some_iff, Prod.mk.injEq] at named
      obtain ⟨_, _, _, same⟩ := named
      exact same.symm

/-- A consumer for which no unique name is made leaves the dictionary as it is. -/
theorem dictionary_of_not_mints
    (unminted : inference.mints consumer dictionary ofEndpoint = false) :
    (inference.find consumer dictionary ofEndpoint).2 = dictionary := by
  cases linked : inference.linkedProducer? consumer with
  | some slot => simp only [find, linked]
  | none =>
    cases stocked : dictionaryEntry? consumer ofEndpoint dictionary with
    | some entry => rw [find_of_entry linked stocked]
    | none =>
      rw [find_of_names linked stocked]
      cases found : consumer.candidateNames.findSome?
          (inference.namedProducer? consumer dictionary) with
      | none => rfl
      | some answer =>
        obtain ⟨producer, after⟩ := answer
        show after = dictionary
        by_cases own : consumer.kind = .path ∧ createsOwnResource consumer = true
        · -- Here the first name is always answered, by a response as no name is made.
          obtain ⟨path, creates⟩ := own
          cases listed : consumer.candidateNames with
          | nil =>
            rw [listed] at found
            cases found
          | cons name others =>
            have answers : inference.atEndpointBefore consumer name ≠ [] := by
              intro nothing
              simp [mints, linked, stocked, path, creates, listed, nothing] at unminted
            rw [listed, List.findSome?_cons] at found
            cases first : inference.namedProducer? consumer dictionary name with
            | none =>
              obtain ⟨slot, rest, before⟩ := List.exists_cons_of_ne_nil answers
              simp [namedProducer?, path, pathProducer?, before] at first
            | some other =>
              rw [first] at found
              cases found
              exact dictionary_of_namedProducer? first fun _ _ => answers
        · obtain ⟨name, _, named⟩ := List.exists_of_findSome?_eq_some found
          exact dictionary_of_namedProducer? named fun path creates =>
            absurd ⟨path, creates⟩ own

end Inference

namespace Passes

variable {setting : Setting} {surveys : List Survey} {survey : Survey} {wired : Wired}
  {consumer : Consumer}

/-- The consumers for which unique names are made when they are answered in turn. -/
def mintedAll (inference : Inference) (ofEndpoint : Option Dictionary) (dictionary : Dictionary) :
    List Consumer → List Consumer
  | [] => []
  | consumer :: rest =>
    let later := mintedAll inference ofEndpoint
      (inference.find consumer dictionary ofEndpoint).2 rest
    if inference.mints consumer dictionary ofEndpoint then consumer :: later else later

/-- The consumers of one request for which unique names are made. -/
def mintedIn (setting : Setting) (inference : Inference) (survey : Survey) : List Consumer :=
  mintedAll inference (setting.ofEndpoint.get? survey.request.endpoint) setting.dictionary
    survey.consumers

/-- The consumers of all requests for which unique names are made, in the order of the requests. -/
def minted (setting : Setting) (surveys : List Survey) : List Consumer :=
  surveys.flatMap (mintedIn setting (inference setting surveys))

/-- The unique names of consumers, each under its own spelling. -/
def ownNames (consumers : List Consumer) : List CustomPayload :=
  consumers.map fun consumer => .uniqueName consumer.slot.name

/-- Answering consumers registers the unique names that are made for them. -/
theorem dictionary_inferAll (inference : Inference) (ofEndpoint : Option Dictionary)
    (start : Dictionary) (consumers : List Consumer) :
    (inferAll inference ofEndpoint start consumers).2 =
      start.registerAll (ownNames (mintedAll inference ofEndpoint start consumers)) := by
  induction consumers generalizing start with
  | nil => rfl
  | cons consumer rest ih =>
    rw [inferAll_cons, mintedAll]
    cases minted : inference.mints consumer start ofEndpoint with
    | true =>
      obtain ⟨_, _, found⟩ := Inference.find_of_mints minted
      have after := ih (inference.find consumer start ofEndpoint).2
      rw [if_pos rfl, ownNames, List.map_cons, Dictionary.registerAll_cons]
      rwa [congrArg Prod.snd found] at after ⊢
    | false =>
      have unchanged := Inference.dictionary_of_not_mints minted
      rw [unchanged, if_neg Bool.false_ne_true]
      exact ih start

/-- A consumer for which a unique name is made is a path parameter that is answered with this name,
which the starting dictionary does not hold. -/
theorem connection_of_mem_mintedAll {inference : Inference} {ofEndpoint : Option Dictionary}
    {start : Dictionary} {consumers : List Consumer}
    (member : consumer ∈ mintedAll inference ofEndpoint start consumers) :
    consumer.kind = .path ∧ ¬start.Holds .uuidSuffix consumer.slot.name ∧
      ⟨consumer, some (.dictionary (.uniqueName consumer.slot.name))⟩ ∈
        (inferAll inference ofEndpoint start consumers).1 := by
  induction consumers generalizing start with
  | nil => exact absurd member List.not_mem_nil
  | cons first rest ih =>
    rw [mintedAll] at member
    rw [inferAll_cons]
    cases minted : inference.mints first start ofEndpoint with
    | true =>
      obtain ⟨path, absent, found⟩ := Inference.find_of_mints minted
      rw [minted, if_pos rfl] at member
      rcases List.mem_cons.mp member with rfl | later
      · refine ⟨path, absent, ?_⟩
        rw [found]
        exact .head _
      · obtain ⟨kind, unheld, inside⟩ := ih later
        refine ⟨kind, fun held => unheld ?_, .tail _ inside⟩
        rw [found]
        exact (Dictionary.extends_register _ _).holds held
    | false =>
      have unchanged := Inference.dictionary_of_not_mints minted
      rw [minted, if_neg Bool.false_ne_true] at member
      rw [unchanged] at member ⊢
      obtain ⟨kind, unheld, inside⟩ := ih member
      exact ⟨kind, unheld, .tail _ inside⟩

/-- To take up what requests inferred from a starting dictionary is to register the unique names
that were made, in the order of the requests. -/
theorem dictionary_of_takeUps {inference : Inference} {start final : Wired}
    (grown : start.dictionary.Extends setting.dictionary)
    (done : (surveys.map (inferRequest setting inference)).foldlM takeUp start = .ok final) :
    final.dictionary = start.dictionary.registerAll
      (ownNames (surveys.flatMap (mintedIn setting inference))) := by
  induction surveys generalizing start with
  | nil =>
    cases done
    rfl
  | cons survey rest ih =>
    rw [List.map_cons, List.foldlM_cons] at done
    obtain ⟨next, stepped, rested⟩ := Outcome.bind_eq_ok_iff.mp done
    obtain ⟨wiring, _, built⟩ := Outcome.bind_eq_ok_iff.mp stepped
    have merged : next.dictionary =
        start.dictionary.registerAll (ownNames (mintedIn setting inference survey)) := by
      cases built
      show (start.dictionary.mergeMissing _).1 = _
      rw [inferRequest, dictionary_inferAll, Dictionary.mergeMissing_registerAll grown]
      rfl
    have since : next.dictionary.Extends setting.dictionary := by
      rw [merged]
      exact (Dictionary.extends_registerAll _ _).trans grown
    rw [ih since rested, merged, List.flatMap_cons, ownNames, ownNames, ownNames, List.map_append,
      Dictionary.registerAll_append]

/-- The dictionary of the first pass is the starting one with the unique names that were made,
registered in the order of the requests. -/
theorem dictionary_of_first (started : first setting surveys = .ok wired) :
    wired.dictionary = setting.dictionary.registerAll (ownNames (minted setting surveys)) :=
  dictionary_of_takeUps (.refl _) started

/-- An entry that inference leaves in the dictionary of a request supplies its consumer after the
first pass, spelled as in the merged dictionary. -/
theorem spelled_of_first (started : first setting surveys = .ok wired) (listed : survey ∈ surveys)
    {raw : Connection}
    (member : raw ∈ (inferRequest setting (inference setting surveys) survey).1)
    {entry : CustomPayload} (given : raw.producer? = some (.dictionary entry))
    (sought : entry.section_ ≠ .header)
    (held : (inferRequest setting (inference setting surveys) survey).2.Holds entry.section_
      entry.name) :
    wired.wiring.producerAt? raw.consumer.key =
      some (.dictionary (entry.respelled wired.dictionary)) := by
  have settled := Outcome.foldlM_settles (fun state : Wired =>
    state.dictionary.Holds entry.section_ entry.name ∧
      state.wiring.producerAt? raw.consumer.key =
        some (.dictionary (entry.respelled state.dictionary)))
    (List.mem_map_of_mem listed) ?_ ?_ started
  · exact settled.2
  · intro state next stepped
    obtain ⟨wiring, connected, built⟩ := Outcome.bind_eq_ok_iff.mp stepped
    cases built
    refine ⟨Dictionary.holds_mergeMissing held, ?_⟩
    refine (producerAt?_of_connectAll_iff connected).mpr (.inr ⟨raw, member, rfl, ?_⟩)
    exact Connection.producer?_respelled_of_dictionary given
  · rintro state other next _ ⟨there, kept⟩ stepped
    obtain ⟨wiring, connected, built⟩ := Outcome.bind_eq_ok_iff.mp stepped
    cases built
    have grown := Dictionary.extends_mergeMissing state.dictionary other.2
    have same := CustomPayload.respelled_of_extends grown sought there
    refine ⟨grown.holds there, ?_⟩
    rw [same]
    exact (producerAt?_of_connectAll_iff connected).mpr (.inl kept)

/-- The unique name of a consumer for which one was made is spelled, after the first pass, as the
first of these consumers spells it. -/
theorem uniqueName_of_first (started : first setting surveys = .ok wired)
    (member : consumer ∈ minted setting surveys) :
    ∃ leader, (minted setting surveys).find? (fun other =>
        decide (EqualIgnoringCase other.slot.name consumer.slot.name)) = some leader ∧
      wired.dictionary.key? .uuidSuffix consumer.slot.name = some leader.slot.name ∧
        wired.wiring.producerAt? consumer.key =
          some (.dictionary (.uniqueName leader.slot.name)) := by
  obtain ⟨survey, listed, inside⟩ := List.mem_flatMap.mp member
  obtain ⟨_, absent, answered⟩ := connection_of_mem_mintedAll inside
  have names : Dictionary.firstSpelling? .uuidSuffix (ownNames (minted setting surveys))
      consumer.slot.name = ((minted setting surveys).find? fun other =>
        decide (EqualIgnoringCase other.slot.name consumer.slot.name)).map (·.slot.name) := by
    have stems : Dictionary.namesIn .uuidSuffix (ownNames (minted setting surveys)) =
        (minted setting surveys).map (·.slot.name) := by
      simp [Dictionary.namesIn, ownNames, List.filter_map, CustomPayload.uniqueName,
        Function.comp_def]
    rw [Dictionary.firstSpelling?, stems, List.find?_map]
    rfl
  have stored : wired.dictionary.key? .uuidSuffix consumer.slot.name =
      Dictionary.firstSpelling? .uuidSuffix (ownNames (minted setting surveys))
        consumer.slot.name := by
    rw [dictionary_of_first started]
    exact Dictionary.key?_registerAll (by decide) absent
  have present : ((minted setting surveys).find? fun other =>
      decide (EqualIgnoringCase other.slot.name consumer.slot.name)).isSome := by
    rw [List.find?_isSome]
    exact ⟨consumer, member, decide_eq_true rfl⟩
  obtain ⟨leader, found⟩ := Option.isSome_iff_exists.mp present
  rw [names, found, Option.map_some] at stored
  refine ⟨leader, found, stored, ?_⟩
  have held : (inferRequest setting (inference setting surveys) survey).2.Holds .uuidSuffix
      consumer.slot.name := by
    rw [inferRequest, dictionary_inferAll]
    exact Dictionary.holds_registerAll_of_mem (List.mem_map_of_mem inside)
  have supplied := spelled_of_first started listed answered rfl
    (CustomPayload.section_uniqueName_ne_header _) held
  rwa [CustomPayload.respelled_of_key? stored] at supplied

end Passes

end ApiWiring
