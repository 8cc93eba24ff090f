import ApiWiring.Proofs.Wiring.Filing
import ApiWiring.Proofs.Wiring.Siblings

/-!
# The pairs of the second pass

The second pass works through pairs: an `id` property with the `name` property that supplies it, and
that property with its unique name. The first of a pair had no producer after the first pass, the
second none or a dictionary entry; and however often a consumer comes up in pairs, they give it the
same producer. So the second pass never fails, an `id` property of a pair is supplied by its sibling
in the end, and what comes up in no pair keeps what the first pass gave it.
-/
namespace ApiWiring.Passes

variable {setting : Setting} {surveys : List Survey} {early : Wiring} {slot : Slot}
  {raw : Connection} {key : ConsumerKey} {progress next : Progress}

/-! ## What pairs connect -/

/-- What a consumer of a pair had for its producer is a dictionary entry, and then no property of
its body is to supply it. -/
theorem yields_of_mem_siblingConnections {inference : Inference} {consumer : Consumer}
    (member : raw ∈ siblingConnections inference early consumer) {current : Producer}
    (had : early.producerAt? raw.consumer.key = some current) :
    current.isDictionary = true ∧ raw.bySibling = false := by
  unfold siblingConnections at member
  split at member
  · exact absurd member List.not_mem_nil
  · rename_i unsupplied
    split at member
    · exact absurd member List.not_mem_nil
    · split at member
      · exact absurd member List.not_mem_nil
      · dsimp only at member
        split at member
        · exact absurd member List.not_mem_nil
        · rename_i replaceable
          rcases List.mem_pair.mp member with rfl | rfl
          · exact absurd (Option.isSome_of_eq_some had) unsupplied
          · rw [Wiring.producerAt?] at had
            rw [had] at replaceable
            exact ⟨by simpa using replaceable, rfl⟩

/-- The consumer for which a pair is made has no producer. -/
theorem unsupplied_of_mem_siblingConnections {inference : Inference} {consumer : Consumer}
    (member : raw ∈ siblingConnections inference early consumer) :
    early.producerAt? consumer.key = none := by
  obtain ⟨slot, container, _, _, _, pair⟩ := pair_of_mem_siblingConnections member
  have identity : ⟨consumer, some (.sibling slot)⟩ ∈
      siblingConnections inference early consumer := by
    rw [pair]
    exact .head _
  cases had : early.producerAt? consumer.key with
  | none => rfl
  | some current => cases (yields_of_mem_siblingConnections identity had).2

/-- A pair is made for a consumer without producer, if its sibling has a container and no producer
other than a dictionary entry. -/
theorem siblingConnections_eq {inference : Inference} {consumer : Consumer} {container : String}
    (unsupplied : early.producerAt? consumer.key = none)
    (sought : inference.sibling? consumer = some slot)
    (named : slot.containerName? = some container)
    (yields : ∀ producer, early.producerAt? (Consumer.plain slot .body).key = some producer →
      producer.isDictionary = true) :
    siblingConnections inference early consumer = [⟨consumer, some (.sibling slot)⟩,
      ⟨.plain slot .body, some (.dictionary (siblingEntry container slot))⟩] := by
  rw [Wiring.producerAt?] at unsupplied
  have replaceable : ¬(early.producerAt? (Consumer.plain slot .body).key).any
      (fun producer => !producer.isDictionary) = true := by
    cases had : early.producerAt? (Consumer.plain slot .body).key with
    | none => exact Bool.false_ne_true
    | some producer => simp [yields producer had]
  rw [Wiring.producerAt?] at replaceable
  simp only [siblingConnections, unsupplied, Option.isSome_none, Bool.false_eq_true, if_false,
    sought, named, if_neg replaceable]

/-- A consumer surveyed in a body is a property of the body of its request. -/
theorem inBody_of_mem_consumers (surveyed : Passes.surveys setting = .ok surveys)
    {consumer : Consumer} (member : ∃ survey ∈ surveys, consumer ∈ survey.consumers)
    (kind : consumer.kind = .body) :
    consumer.slot.InBody consumer.slot.request setting.options.convention := by
  obtain ⟨survey, listed, inside⟩ := member
  obtain ⟨request, _, done⟩ := request_of_mem_surveys surveyed listed
  have body := Survey.inBody_of_mem_consumers done inside kind
  rwa [← body.1] at body

/-- Consumers surveyed in bodies have the same sibling if they have one key. -/
theorem sibling?_eq_of_key (surveyed : Passes.surveys setting = .ok surveys) {left right : Consumer}
    (inLeft : ∃ survey ∈ surveys, left ∈ survey.consumers)
    (inRight : ∃ survey ∈ surveys, right ∈ survey.consumers) (kind : left.kind = .body)
    (same : left.key = right.key) (inference : Inference) :
    inference.sibling? left = inference.sibling? right := by
  have sameKind : left.kind = right.kind := congrArg ConsumerKey.kind same
  have owner : left.slot.request = right.slot.request := congrArg ConsumerKey.request same
  have leftBody := inBody_of_mem_consumers surveyed inLeft kind
  have rightBody := inBody_of_mem_consumers surveyed inRight (sameKind.symm.trans kind)
  have alike := leftBody.untyped_eq rightBody owner (congrArg ConsumerKey.path same)
  have blind : Slot.TypeBlind fun slot => inference.sibling? (.plain slot left.kind) := fun _ => rfl
  calc inference.sibling? left
      = inference.sibling? (.plain left.slot left.kind) := rfl
    _ = inference.sibling? (.plain right.slot left.kind) := blind.congr alike
    _ = inference.sibling? right := by rw [sameKind]; rfl

/-- The pairs give one producer to a consumer. -/
theorem producer?_eq_of_mem_pairs (surveyed : Passes.surveys setting = .ok surveys)
    {left right : Connection} (inLeft : left ∈ pairs setting surveys early)
    (inRight : right ∈ pairs setting surveys early)
    (same : left.consumer.key = right.consumer.key) : left.producer? = right.producer? := by
  obtain ⟨survey, listed, consumer, member, made⟩ := mem_pairs.mp inLeft
  obtain ⟨slot, container, sought, named, rfl | rfl, _⟩ := pair_of_mem_siblingConnections made
  · obtain ⟨home, atHome, other, inside, built⟩ := mem_pairs.mp inRight
    obtain ⟨taken, around, found, contained, rfl | rfl, _⟩ := pair_of_mem_siblingConnections built
    · obtain ⟨kind, _⟩ := sibling_of_sibling? surveyed sought
      have equal := sibling?_eq_of_key surveyed ⟨survey, listed, member⟩ ⟨home, atHome, inside⟩
        kind same (inference setting surveys)
      rw [sought, found, Option.some.injEq] at equal
      rw [equal]
    · obtain ⟨_, _, called, inBody⟩ := sibling_of_sibling? surveyed found
      exact agrees_of_mem_pairs surveyed inBody called contained inLeft same
  · obtain ⟨_, _, called, inBody⟩ := sibling_of_sibling? surveyed sought
    exact (agrees_of_mem_pairs surveyed inBody called named inRight same.symm).symm

/-! ## Working through them -/

/-- Taking up a connection settles the producer of its consumer and no other. -/
theorem producerAt?_of_retake (done : retake progress raw = .ok next) (key : ConsumerKey) :
    next.wired.wiring.producerAt? key =
      if key = raw.consumer.key then
        (raw.respelled progress.wired.dictionary).producer?.or
          (progress.wired.wiring.producerAt? key)
      else progress.wired.wiring.producerAt? key := by
  obtain ⟨_, outcome, connected, _⟩ := retake_eq_ok done
  rw [(Wiring.change_of_reconnect connected).producerAt?, Connection.consumer_respelled]

/-- Whether what the consumer of a connection has for its producer may give way to what the
connection gives it, or is the same. -/
def Admits (wiring : Wiring) (raw : Connection) : Prop :=
  ∀ current, wiring.producerAt? raw.consumer.key = some current →
    current.isDictionary = true ∨ raw.producer? = some current

/-- The wiring of the first pass admits the pairs. -/
theorem admits_of_mem_pairs (member : raw ∈ pairs setting surveys early) : Admits early raw := by
  intro current had
  obtain ⟨_, _, _, _, made⟩ := mem_pairs.mp member
  exact .inl (yields_of_mem_siblingConnections made had).1

/-- A connection of a pair has a producer. -/
theorem producer?_isSome_of_mem_pairs (member : raw ∈ pairs setting surveys early) :
    raw.producer?.isSome := by
  obtain ⟨_, _, _, _, made⟩ := mem_pairs.mp member
  obtain ⟨_, _, _, _, rfl | rfl, _⟩ := pair_of_mem_siblingConnections made <;> rfl

/-- Taking up a connection that the wiring admits succeeds. -/
theorem retake_succeeds (given : raw.producer?.isSome)
    (admitted : Admits progress.wired.wiring raw) :
    ∃ next, retake progress raw = .ok next := by
  let dictionary := progress.wired.dictionary
  have present : (raw.respelled dictionary).producer?.isSome := by
    rwa [Connection.isSome_producer?_respelled]
  have agrees : ∀ current,
      progress.wired.wiring.producerAt? (raw.respelled dictionary).consumer.key = some current →
        current.isDictionary = true ∨ (raw.respelled dictionary).producer? = some current := by
    intro current there
    rw [Connection.consumer_respelled] at there
    rcases admitted current there with entry | same
    · exact .inl entry
    · cases entry : current.isDictionary with
      | true => exact .inl rfl
      | false => exact .inr (Connection.producer?_respelled_of_other same entry)
  obtain ⟨⟨wiring, outcome⟩, connected⟩ := Wiring.reconnect_succeeds present agrees
  exact ⟨_, Outcome.bind_eq_ok_iff.mpr ⟨_, connected, rfl⟩⟩

/-- What the wiring admits it still admits after a connection of a pair was taken up. -/
theorem admits_of_retake (surveyed : Passes.surveys setting = .ok surveys) {other : Connection}
    (member : raw ∈ pairs setting surveys early) (listed : other ∈ pairs setting surveys early)
    (admitted : Admits progress.wired.wiring other) (done : retake progress raw = .ok next) :
    Admits next.wired.wiring other := by
  intro current there
  rw [producerAt?_of_retake done] at there
  split at there
  · rename_i same
    rw [producer?_eq_of_mem_pairs surveyed listed member same]
    obtain ⟨producer, given⟩ := Option.isSome_iff_exists.mp (producer?_isSome_of_mem_pairs member)
    cases producer with
    | dictionary payload =>
      rw [Connection.producer?_respelled_of_dictionary given] at there
      cases there
      exact .inl rfl
    | response | sibling =>
      rw [Connection.producer?_respelled_of_other given rfl] at there
      cases there
      exact .inr given
  · exact admitted current there

/-- The second pass never fails. -/
theorem second_succeeds (surveyed : Passes.surveys setting = .ok surveys) (wired : Wired) :
    ∃ progress, second (inference setting surveys) surveys wired = .ok progress := by
  have each : ∃ final, (pairs setting surveys wired.wiring).foldlM retake
      { wired, siblingCount := 0 } = .ok final ∧
        ∀ raw ∈ pairs setting surveys wired.wiring, Admits final.wired.wiring raw := by
    refine Outcome.foldlM_succeeds (fun state : Progress =>
      ∀ raw ∈ pairs setting surveys wired.wiring, Admits state.wired.wiring raw) ?_
      fun raw => admits_of_mem_pairs
    intro state raw member admitted
    obtain ⟨next, done⟩ := retake_succeeds (producer?_isSome_of_mem_pairs member)
      (admitted raw member)
    exact ⟨next, done, fun other listed =>
      admits_of_retake surveyed member listed (admitted other listed) done⟩
  obtain ⟨final, done, _⟩ := each
  exact ⟨final, done⟩

/-- After the second pass the `id` property of a pair is supplied by its sibling. -/
theorem producerAt?_of_second (surveyed : Passes.surveys setting = .ok surveys) {wired : Wired}
    (done : second (inference setting surveys) surveys wired = .ok progress)
    (member : raw ∈ pairs setting surveys wired.wiring)
    (given : raw.producer? = some (.sibling slot)) :
    progress.wired.wiring.producerAt? raw.consumer.key = some (.sibling slot) := by
  have settles : ∀ {state next : Progress} {other : Connection},
      other ∈ pairs setting surveys wired.wiring → other.consumer.key = raw.consumer.key →
        retake state other = .ok next →
          next.wired.wiring.producerAt? raw.consumer.key = some (.sibling slot) := by
    intro state next other listed same stepped
    have agreed := (producer?_eq_of_mem_pairs surveyed listed member same).trans given
    rw [producerAt?_of_retake stepped, if_pos same.symm,
      Connection.producer?_respelled_of_other agreed rfl]
    rfl
  refine Outcome.foldlM_settles (fun state : Progress =>
    state.wired.wiring.producerAt? raw.consumer.key = some (.sibling slot)) member ?_ ?_ done
  · intro state next stepped
    exact settles member rfl stepped
  · intro state other next listed settled stepped
    by_cases same : other.consumer.key = raw.consumer.key
    · exact settles listed same stepped
    · rw [producerAt?_of_retake stepped, if_neg (Ne.symm same)]
      exact settled

/-- What comes up in no pair keeps its producer. -/
theorem producerAt?_of_apart {wired : Wired}
    (done : second (inference setting surveys) surveys wired = .ok progress)
    (apart : ∀ raw ∈ pairs setting surveys wired.wiring, raw.consumer.key ≠ key) :
    progress.wired.wiring.producerAt? key = wired.wiring.producerAt? key := by
  refine Outcome.foldlM_keeps (fun state : Progress =>
    state.wired.wiring.producerAt? key = wired.wiring.producerAt? key) ?_ rfl done
  intro state raw next listed kept stepped
  rw [producerAt?_of_retake stepped, if_neg (Ne.symm (apart raw listed))]
  exact kept

end ApiWiring.Passes
