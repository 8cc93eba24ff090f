import ApiWiring.Proofs.Wiring.Reinference
import ApiWiring.Proofs.Wiring.Revision
import ApiWiring.Proofs.Wiring.UniqueNames

/-!
# Running again

The passes are run, their dictionary grows further, and they are run again from there (`Rerun`). The
first pass then adds nothing. The second one sees other producers, since more consumers have a
dictionary entry. It may make a pair that was not made, where a response had supplied the `name`
property; and a pair may be missing, where the `id` property has an entry now, so that the `name`
property is left to itself (`Released`). Apart from that every consumer that had a producer has one,
and every entry that a consumer gets is held, or the consumer got it already.
-/
namespace ApiWiring.Passes

open Text

variable {setting : Setting} {key : ConsumerKey}

/-- The course of the passes over some requests and their course from a dictionary that grew out of
that of the first. -/
structure Rerun (setting : Setting) where
  /-- The surveys, which do not depend on the dictionary. -/
  surveys : List Survey
  /-- The requests are surveyed. -/
  surveyed : Passes.surveys setting = .ok surveys
  /-- The result of the first pass. -/
  early : Wired
  /-- The first pass is run. -/
  started : first setting surveys = .ok early
  /-- The result of both passes. -/
  before : Progress
  /-- The second pass is run. -/
  finished : second (inference setting surveys) surveys early = .ok before
  /-- The dictionary to start from again. -/
  final : Dictionary
  /-- It grew out of that of the result. -/
  grown : final.Extends before.wired.dictionary
  /-- The result of the first pass when it is run again. -/
  late : Wired
  /-- The first pass is run again. -/
  restarted : first (setting.startingWith final) surveys = .ok late
  /-- The result of both passes when they are run again. -/
  after : Progress
  /-- The second pass is run again. -/
  refinished : second (inference setting surveys) surveys late = .ok after

/-- Whether a value supplied another one of its body and does not when the passes are run again. -/
def Released (before after : Wiring) (key : ConsumerKey) : Prop :=
  Supplies before key ∧ ¬Supplies after key

namespace Rerun

variable {raw : Connection} {consumer : Consumer} {slot : Slot} {container : String}
  {entry : CustomPayload}

/-- Two runs, of which the second starts from a dictionary that grew out of that of the first. -/
theorem exists_of_runs {final : Dictionary} {result later : Result}
    (ran : run setting = .ok result) (grown : final.Extends result.wired.dictionary)
    (reran : run (setting.startingWith final) = .ok later) :
    ∃ rerun : Rerun setting, rerun.final = final ∧ rerun.before.wired = result.wired ∧
      rerun.after.wired = later.wired := by
  obtain ⟨surveys, early, before, surveyed, started, finished, built, _⟩ := run_eq_ok ran
  obtain ⟨others, late, after, resurveyed, restarted, refinished, rebuilt, _⟩ := run_eq_ok reran
  obtain rfl : surveys = others := Except.ok.inj (surveyed.symm.trans resurveyed)
  rw [built] at grown
  exact ⟨⟨surveys, surveyed, early, started, before, finished, final, grown, late, restarted, after,
    refinished⟩, rfl, built.symm, rebuilt.symm⟩

/-- The surveys are the same when the passes are run again. -/
theorem resurveyed (rerun : Rerun setting) :
    Passes.surveys (setting.startingWith rerun.final) = .ok rerun.surveys := rerun.surveyed

/-- The dictionary holds what the requests added to their copies of the starting one. -/
theorem holdsInferred (rerun : Rerun setting) :
    HoldsInferred setting rerun.surveys rerun.final := by
  have later := (origin_of_second (origin_of_first _ rerun.started).2 rerun.finished).1
  exact holdsInferred_of_first rerun.started (rerun.grown.trans later)

/-- Key by key, the producers of the first pass are what became of those it made before. -/
theorem again (rerun : Rerun setting) (key : ConsumerKey) :
    Again rerun.final (rerun.early.wiring.producerAt? key) (rerun.late.wiring.producerAt? key) :=
  again_of_first rerun.surveyed rerun.started rerun.holdsInferred rerun.restarted key

/-- The first pass adds nothing. -/
theorem dictionary_late (rerun : Rerun setting) : rerun.late.dictionary = rerun.final :=
  dictionary_of_first_again rerun.surveyed rerun.holdsInferred rerun.restarted

/-- The wiring of the first course is filed. -/
theorem filed_before (rerun : Rerun setting) : rerun.before.wired.wiring.Filed :=
  (filed_of_passes rerun.surveyed rerun.started rerun.finished).1

/-- The wiring of the second course is filed. -/
theorem filed_after (rerun : Rerun setting) : rerun.after.wired.wiring.Filed :=
  (filed_of_passes rerun.resurveyed rerun.restarted rerun.refinished).1

/-- The dictionary grows in the second pass. -/
theorem after_extends (rerun : Rerun setting) :
    rerun.after.wired.dictionary.Extends rerun.final := by
  have later := (origin_of_second (origin_of_first _ rerun.restarted).2 rerun.refinished).1
  rwa [rerun.dictionary_late] at later

/-! ## Pairs made again -/

/-- A pair is made again if its consumer has no producer now either. -/
theorem mem_siblingConnections_late (rerun : Rerun setting)
    (made : raw ∈ siblingConnections (inference setting rerun.surveys) rerun.early.wiring consumer)
    (unsupplied : rerun.late.wiring.producerAt? consumer.key = none) :
    raw ∈ siblingConnections (inference setting rerun.surveys) rerun.late.wiring consumer := by
  obtain ⟨slot, container, sought, named, _, pair⟩ := pair_of_mem_siblingConnections made
  have partner : ⟨.plain slot .body, some (.dictionary (siblingEntry container slot))⟩ ∈
      siblingConnections (inference setting rerun.surveys) rerun.early.wiring consumer := by
    rw [pair]
    exact .tail _ (.head _)
  have yields : ∀ producer, rerun.late.wiring.producerAt? (Consumer.plain slot .body).key =
      some producer → producer.isDictionary = true := by
    intro producer has
    cases entry : producer.isDictionary with
    | true => rfl
    | false =>
      have had := (rerun.again _).eq_of_settled has entry
      exact entry.symm.trans (yields_of_mem_siblingConnections partner had).1
  rw [siblingConnections_eq unsupplied sought named yields, ← pair]
  exact made

/-- What the first pass gives to a consumer is a response or a dictionary entry. -/
theorem exists_response (rerun : Rerun setting) {producer : Producer}
    (had : rerun.early.wiring.producerAt? key = some producer)
    (settled : producer.isDictionary = false) : ∃ source, producer = .response source := by
  obtain ⟨survey, listed, raw, member, merged, _, given⟩ := exists_raw_of_first rerun.started had
  have apart := bySibling_of_mem_inferRequest rerun.surveyed listed member
  rw [Connection.bySibling, Connection.producer?_of_respelled given settled, Option.any_some]
    at apart
  cases producer with
  | response source => exact ⟨source, rfl⟩
  | dictionary entry => cases settled
  | sibling slot => cases apart

/-- A unique name of a pair made now is held from before, or a response had supplied the property.
-/
theorem held_or_response (rerun : Rerun setting)
    (made : ⟨.plain slot .body, some (.dictionary (siblingEntry container slot))⟩ ∈
      siblingConnections (inference setting rerun.surveys) rerun.late.wiring consumer)
    (surveyed : ∃ survey ∈ rerun.surveys, consumer ∈ survey.consumers) :
    rerun.final.Holds .uuidSuffix (siblingEntry container slot).name ∨
      ∃ source, rerun.early.wiring.producerAt? (Consumer.plain slot .body).key =
        some (.response source) := by
  obtain ⟨sought, named, _⟩ := partner_of_mem_siblingConnections made
  have unsupplied : rerun.early.wiring.producerAt? consumer.key = none :=
    (rerun.again _).eq_none (unsupplied_of_mem_siblingConnections made)
  by_cases yields : ∀ producer, rerun.early.wiring.producerAt? (Consumer.plain slot .body).key =
      some producer → producer.isDictionary = true
  · left
    have wasMade := siblingConnections_eq unsupplied sought named yields
    obtain ⟨survey, listed, inside⟩ := surveyed
    have paired : ⟨.plain slot .body, some (.dictionary (siblingEntry container slot))⟩ ∈
        pairs setting rerun.surveys rerun.early.wiring := by
      refine mem_pairs.mpr ⟨survey, listed, consumer, inside, ?_⟩
      rw [wasMade]
      exact .tail _ (.head _)
    obtain ⟨_, _, called, inBody⟩ := sibling_of_sibling? rerun.surveyed sought
    obtain ⟨stored, found, _⟩ :=
      settled_of_second rerun.surveyed rerun.finished inBody called named paired
    obtain ⟨member, alike⟩ := Dictionary.mem_keys_of_key? found
    exact rerun.grown.holds ⟨stored, member, alike⟩
  · right
    simp only [not_forall, Bool.not_eq_true] at yields
    obtain ⟨producer, had, settled⟩ := yields
    obtain ⟨source, rfl⟩ := rerun.exists_response had settled
    exact ⟨source, had⟩

/-- A key that the second pass adds when it is run again is the unique name of a property that a
response had supplied, and the property supplies another one of its body now. -/
theorem joined_of_new (rerun : Rerun setting) {from_ : DictionarySection} {name : String}
    (member : name ∈ rerun.after.wired.dictionary.keys from_)
    (absent : name ∉ rerun.final.keys from_) :
    from_ = .uuidSuffix ∧ ∃ connection ∈ rerun.after.wired.wiring.connections,
      ∃ slot container source, connection.producer? = some (.sibling slot) ∧
        slot.name = "name" ∧ slot.containerName? = some container ∧
          name = container ++ "_name" ∧
            rerun.before.wired.wiring.producerAt? (Consumer.plain slot .body).key =
              some (.response source) := by
  rw [← rerun.dictionary_late] at absent
  obtain ⟨rfl, unheld, slot, container, paired, rfl⟩ :=
    (new_of_second rerun.refinished member).resolve_left absent
  rw [rerun.dictionary_late] at unheld
  obtain ⟨survey, listed, consumer, inside, made⟩ := mem_pairs.mp paired
  obtain ⟨sought, named, identity⟩ := partner_of_mem_siblingConnections made
  obtain ⟨_, _, called, _⟩ := sibling_of_sibling? rerun.surveyed sought
  have supplied := producerAt?_of_second rerun.resurveyed rerun.refinished
    (mem_pairs.mpr ⟨survey, listed, consumer, inside, identity⟩) rfl
  obtain ⟨connection, found, given⟩ := Option.bind_eq_some_iff.mp supplied
  obtain ⟨source, had⟩ :=
    (rerun.held_or_response made ⟨survey, listed, inside⟩).resolve_left unheld
  have revision := revision_of_second rerun.surveyed rerun.finished (Consumer.plain slot .body).key
  refine ⟨rfl, connection, Wiring.mem_connections_of_get? found, slot, container, source, given,
    called, named, ?_, revision.eq_of_settled had rfl⟩
  rw [siblingEntry, called]
  exact String.append_assoc

/-! ## What becomes of the producers -/

/-- A value with a producer that has none when the passes are run again supplied another one of its
body and does not any more. -/
theorem released_of_lost (rerun : Rerun setting)
    (had : (rerun.before.wired.wiring.producerAt? key).isSome)
    (lost : rerun.after.wired.wiring.producerAt? key = none) :
    Released rerun.before.wired.wiring rerun.after.wired.wiring key := by
  have late : rerun.late.wiring.producerAt? key = none := by
    have revision := revision_of_second rerun.surveyed rerun.refinished key
    rw [← Option.not_isSome_iff_eq_none]
    intro supplied
    have kept := revision.isSome supplied
    rw [lost] at kept
    cases kept
  have early := (rerun.again key).eq_none late
  by_cases paired : ∃ raw ∈ pairs setting rerun.surveys rerun.early.wiring, raw.consumer.key = key
  · obtain ⟨raw, listed, rfl⟩ := paired
    rcases bySibling_or_supplies rerun.surveyed rerun.started rerun.finished listed with
      ⟨survey, inSurveys, inside, _, made, slot, given, _⟩ | supplies
    · -- The pair is made again, and then the key has a producer.
      have again := mem_pairs.mpr
        ⟨survey, inSurveys, _, inside, rerun.mem_siblingConnections_late made late⟩
      have settled := producerAt?_of_second rerun.surveyed rerun.refinished again given
      rw [lost] at settled
      cases settled
    · refine ⟨supplies, fun still => ?_⟩
      obtain ⟨_, settled, _⟩ :=
        holds_of_supplies rerun.resurveyed rerun.restarted rerun.refinished still
      rw [lost] at settled
      cases settled
  · have same := producerAt?_of_apart rerun.finished fun raw listed own =>
      paired ⟨raw, listed, own⟩
    rw [same, early] at had
    cases had

/-- An entry that a consumer has when the passes are run again is held, or the consumer had it
already, or it supplied another value of its body and does not any more. -/
theorem held_or_same_or_released (rerun : Rerun setting)
    (has : rerun.after.wired.wiring.producerAt? key = some (.dictionary entry)) :
    rerun.after.wired.dictionary.Holds entry.section_ entry.name ∨
      (∃ former, rerun.before.wired.wiring.producerAt? key = some (.dictionary former) ∧
        former.section_ = entry.section_ ∧ EqualIgnoringCase former.name entry.name) ∨
        Released rerun.before.wired.wiring rerun.after.wired.wiring key := by
  by_cases supplies : Supplies rerun.after.wired.wiring key
  · obtain ⟨_, settled, held⟩ :=
      holds_of_supplies rerun.resurveyed rerun.restarted rerun.refinished supplies
    rw [settled] at has
    cases has
    exact .inl held
  · have late : rerun.late.wiring.producerAt? key = some (.dictionary entry) := by
      rw [← has]
      refine (producerAt?_of_apart rerun.refinished ?_).symm
      rintro raw listed rfl
      rcases bySibling_or_supplies rerun.resurveyed rerun.restarted rerun.refinished listed with
        ⟨_, _, _, _, _, _, _, settled⟩ | naming
      · rw [settled] at has
        cases has
      · exact supplies naming
    have again := rerun.again key
    rw [late] at again
    generalize had : rerun.early.wiring.producerAt? key = first at again
    cases again with
    | same _ plain => exact absurd rfl (plain entry)
    | stocked _ _ held => exact .inl (rerun.after_extends.holds held)
    | special former _ placed alike =>
      by_cases supplied : Supplies rerun.before.wired.wiring key
      · exact .inr (.inr ⟨supplied, supplies⟩)
      · have kept := producerAt?_of_not_supplies rerun.surveyed rerun.started rerun.finished had
          fun _ => supplied
        exact .inr (.inl ⟨former, kept, placed.symm, alike.symm⟩)

/-! ## Entries used again -/

/-- A property that supplies another one of its body in both courses keeps its entry. -/
theorem supplied_again (rerun : Rerun setting)
    (supplied : Supplies rerun.before.wired.wiring key)
    (supplies : Supplies rerun.after.wired.wiring key) :
    rerun.after.wired.wiring.producerAt? key = rerun.before.wired.wiring.producerAt? key := by
  obtain ⟨_, member, first, given, rfl⟩ := supplied
  obtain ⟨_, there, second, regiven, same⟩ := supplies
  obtain ⟨called, inBody, container, named, stored, found, settled⟩ :=
    settled_of_supplied rerun.surveyed rerun.started rerun.finished member given
  obtain ⟨alsoCalled, alsoInBody, around, alsoNamed, respelled, refound, resettled⟩ :=
    settled_of_supplied rerun.resurveyed rerun.restarted rerun.refinished there regiven
  have owner : second.request = first.request := congrArg ConsumerKey.request same
  have paths : second.accessPath = first.accessPath := congrArg ConsumerKey.path same
  rw [owner] at alsoInBody
  have blind : Slot.TypeBlind Slot.containerName? := fun _ => rfl
  have containers := blind.congr (alsoInBody.untyped_eq inBody owner paths)
  rw [named, alsoNamed, Option.some.injEq] at containers
  have entries : siblingEntry around second = siblingEntry container first := by
    rw [siblingEntry, siblingEntry, called, alsoCalled, containers]
  -- The dictionary had the spelling after the first course and kept it since.
  rw [entries] at refound resettled
  rw [same] at resettled
  have kept := rerun.after_extends.key? (rerun.grown.key? found)
  rw [refound, Option.some.injEq] at kept
  rw [resettled, settled, kept]

/-- A path parameter with a dictionary entry has one again, and both have its name; the stem of a
unique name gives way only to values under that name. -/
theorem path_entry_again (rerun : Rerun setting) (path : key.kind = .path)
    (had : rerun.before.wired.wiring.producerAt? key = some (.dictionary entry)) :
    ∃ other, rerun.after.wired.wiring.producerAt? key = some (.dictionary other) ∧
      EqualIgnoringCase entry.name key.name ∧ EqualIgnoringCase other.name key.name ∧
        (entry.section_ = .uuidSuffix → other.section_ = .uuidSuffix ∨
          rerun.final.Holds .string key.name) := by
  have early : rerun.early.wiring.producerAt? key = some (.dictionary entry) := by
    rw [← had]
    refine (producerAt?_of_apart rerun.finished ?_).symm
    rintro raw listed rfl
    exact absurd (path.symm.trans (kind_of_mem_pairs listed)) (by decide)
  obtain ⟨other, late⟩ := (rerun.again key).isDictionary early
  have after : rerun.after.wired.wiring.producerAt? key = some (.dictionary other) := by
    rw [← late]
    refine producerAt?_of_apart rerun.refinished ?_
    rintro raw listed rfl
    exact absurd (path.symm.trans (kind_of_mem_pairs listed)) (by decide)
  obtain ⟨_, name⟩ := name_of_first rerun.started path early
  obtain ⟨sought, renamed⟩ := name_of_first rerun.restarted path late
  refine ⟨other, after, name, renamed, fun unique => ?_⟩
  have again := rerun.again key
  rw [early, late] at again
  cases again with
  | same _ plain => exact absurd rfl (plain _)
  | special _ _ placed => exact .inl (placed.trans unique)
  | stocked _ _ held =>
    cases place : other.section_ with
    | string =>
      rw [place] at held
      exact .inr (held.congr renamed)
    | uuidSuffix => exact .inl rfl
    | header => exact absurd place sought

end Rerun

end ApiWiring.Passes
