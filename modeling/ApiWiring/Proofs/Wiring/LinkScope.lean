import ApiWiring.Proofs.Report.Copying
import ApiWiring.Proofs.Wiring.Isolation

/-!
# Where a link acts

A link is asked about at each consumer, and only by the request, the name and the path of the
consumer. Where it does not apply it is passed over, so the consumer has the link that it had
without it, or none as before. A link that holds everywhere may still change what another request
of the same identity asks for; to an identity with no consumer that it applies to it is nothing.
-/
namespace ApiWiring

namespace Link

/-- Whether a link applies to the consumers of a key: it has another request produce, does not
except this one, names no other consumer and speaks of the value. -/
structure AppliesAt (link : Link) (key : ConsumerKey) : Prop where
  /-- Another request produces. -/
  foreign : link.producer ≠ key.request
  /-- The request is not excepted. -/
  allowed : link.excepts key.request = false
  /-- The link is for this request or for all. -/
  owned : ∀ consumer, link.consumer = some consumer → consumer = key.request
  /-- It names the value or locates it. -/
  spoken : link.consumerParameter = .named key.name ∨ link.consumerParameter = .located key.path

/-- A link applies to a slot when it applies at the key of its consumers. -/
theorem appliesTo_iff {link : Link} {slot : Slot} (kind : ParameterKind) :
    link.appliesTo slot = true ↔ link.AppliesAt (Consumer.plain slot kind).key := by
  have owned : (link.consumer.all (· == slot.request)) = true ↔
      ∀ consumer, link.consumer = some consumer → consumer = slot.request := by
    cases link.consumer <;> simp
  constructor
  · intro applies
    simp only [appliesTo, Bool.and_eq_true, owned, bne_iff_ne, Bool.not_eq_true'] at applies
    obtain ⟨⟨⟨foreign, allowed⟩, owner⟩, speaks⟩ := applies
    refine ⟨foreign, allowed, owner, ?_⟩
    split at speaks
    · rename_i name named
      exact .inl (named.trans (congrArg LinkParameter.named (beq_iff_eq.mp speaks)))
    · rename_i path located
      exact .inr (located.trans (congrArg LinkParameter.located (beq_iff_eq.mp speaks)))
  · rintro ⟨foreign, allowed, owner, speaks⟩
    have elsewhere : (link.producer != slot.request) = true := bne_iff_ne.mpr foreign
    have unexcepted : link.excepts slot.request = false := allowed
    rw [appliesTo, elsewhere, unexcepted, owned.mpr owner, Bool.not_false, Bool.and_self,
      Bool.and_self, Bool.true_and]
    rcases speaks with named | located
    · rw [named]
      exact beq_self_eq_true _
    · rw [located]
      exact beq_self_eq_true _

/-- The links of records are those of the records that are links, in order. -/
theorem fst_ofRecords (records : List LinkRecord) (owner : Option RequestId) (origin : String) :
    (ofRecords records owner origin).1 =
      records.filterMap fun record => (ofRecord record owner).toOption := by
  induction records with
  | nil => rfl
  | cons record rest ih =>
    rw [List.filterMap_cons, ← ih, ofRecords, List.foldr_cons]
    cases ofRecord record owner <;> rfl

end Link

namespace LinkRecord

variable {record : LinkRecord} {key : ConsumerKey}

/-- Whether a record, written to hold everywhere, is a link that applies at a key. -/
def AppliesAt (record : LinkRecord) (key : ConsumerKey) : Prop :=
  ∃ link, Link.ofRecord record none = .ok link ∧ link.AppliesAt key

/-- A record does not apply at a key when it is no link, or when its link has the request itself
produce, excepts it, is for another request, or does not speak of the value. -/
theorem not_appliesAt_iff : ¬record.AppliesAt key ↔
    (∃ fault, Link.ofRecord record none = .error fault) ∨
      ∃ link, Link.ofRecord record none = .ok link ∧
        (link.producer = key.request ∨ link.excepts key.request = true ∨
          (∃ consumer, link.consumer = some consumer ∧ consumer ≠ key.request) ∨
            (link.consumerParameter ≠ .named key.name ∧
              link.consumerParameter ≠ .located key.path)) := by
  cases read : Link.ofRecord record none with
  | error fault => simp [AppliesAt, read]
  | ok link =>
    simp only [AppliesAt, read, Except.ok.injEq, exists_eq_left', reduceCtorEq, exists_false,
      false_or]
    constructor
    · intro elsewhere
      by_contra none
      simp only [not_or, not_exists, not_and, ne_eq, Bool.not_eq_true, Decidable.not_not] at none
      obtain ⟨foreign, allowed, owned, spoken⟩ := none
      refine elsewhere ⟨foreign, allowed, owned, ?_⟩
      by_cases named : link.consumerParameter = .named key.name
      · exact .inl named
      · exact .inr (spoken named)
    · rintro (own | excepted | ⟨other, asked, apart⟩ | ⟨unnamed, unlocated⟩) applies
      · exact applies.foreign own
      · rw [applies.allowed] at excepted
        cases excepted
      · exact apart (applies.owned other asked)
      · exact applies.spoken.elim unnamed unlocated

end LinkRecord

/-- Surveyed with other links that hold everywhere, a request offers the same responses and has the
same siblings. Its consumers are the same if at each of them the first link that applies is. -/
theorem Survey.ofRequest_relinked {options : Options} {everywhere links : List Link}
    {request : Request} {survey other : Survey}
    (done : ofRequest options everywhere request = .ok survey)
    (redone : ofRequest options links request = .ok other) :
    other.request = survey.request ∧ other.responses = survey.responses ∧
      other.siblings = survey.siblings ∧
        ((∀ consumer ∈ survey.consumers, links.find? (·.appliesTo consumer.slot) =
          everywhere.find? (·.appliesTo consumer.slot)) → other.consumers = survey.consumers) := by
  obtain ⟨owner, offered, supplying, pathSlots, found, listed⟩ := ofRequest_eq_ok done
  obtain ⟨reowner, reoffered, resupplying, others, refound, relisted⟩ := ofRequest_eq_ok redone
  obtain rfl : pathSlots = others := Except.ok.inj (found.symm.trans refound)
  refine ⟨reowner.trans owner.symm, reoffered.trans offered.symm,
    resupplying.trans supplying.symm, fun kept => ?_⟩
  rw [listed] at kept
  rw [listed, relisted]
  refine List.map_congr_left fun entry member => ?_
  have first := kept _ (List.mem_map_of_mem member)
  simp only [Link.fst_find?, List.find?_append, first]

namespace Passes

variable {setting : Setting} {surveys others : List Survey} {id : RequestId}

/-- Links that hold everywhere are nothing to the requests of an identity if at each of their
consumers the first one that applies stays the same. -/
theorem parallel_of_links {links : List Link} (surveyed : Passes.surveys setting = .ok surveys)
    (resurveyed : Passes.surveys { setting with everywhere := links } = .ok others)
    (same : ∀ request ∈ setting.requests, request.id = id → ∀ survey,
      Survey.ofRequest setting.options setting.everywhere request = .ok survey →
        ∀ consumer ∈ survey.consumers, links.find? (·.appliesTo consumer.slot) =
          setting.everywhere.find? (·.appliesTo consumer.slot)) :
    Parallel setting { setting with everywhere := links } surveys others id := by
  have each : List.Forall₂ (fun survey other : Survey => other.request = survey.request ∧
      other.responses = survey.responses ∧ other.siblings = survey.siblings ∧
        (survey.request = id → other.consumers = survey.consumers)) surveys others := by
    refine Outcome.forall₂_of_common (Outcome.mapM_eq_ok_iff.mp surveyed)
      (Outcome.mapM_eq_ok_iff.mp resurveyed) fun request asked survey other done redone => ?_
    obtain ⟨owner, offered, supplying, listed⟩ := Survey.ofRequest_relinked done redone
    refine ⟨owner, offered, supplying, fun called => listed (same request asked ?_ survey done)⟩
    exact (Survey.ofRequest_eq_ok done).1.symm.trans called
  constructor
  · rfl
  · rfl
  · rfl
  · rw [List.flatMap_def, List.flatMap_def,
      Outcome.map_eq_of_forall₂ each fun survey other alike => alike.2.1.symm]
  · rw [List.flatMap_def, List.flatMap_def,
      Outcome.map_eq_of_forall₂ each fun survey other alike => alike.2.2.1.symm]
  · intro consumers
    constructor
    · rintro ⟨survey, listed, called, rfl⟩
      obtain ⟨other, member, owner, _, _, same⟩ := Outcome.exists_result_of_forall₂ each listed
      exact ⟨other, member, owner.trans called, same called⟩
    · rintro ⟨other, listed, called, rfl⟩
      obtain ⟨survey, member, owner, _, _, same⟩ := Outcome.exists_member_of_forall₂ each listed
      have own := owner.symm.trans called
      exact ⟨survey, member, own, (same own).symm⟩

/-- A record that applies to no consumer of an identity is nothing to its requests, wherever it
stands among the records that hold everywhere. -/
theorem parallel_of_record {front back : List LinkRecord} {record : LinkRecord} {origin : String}
    (split : setting.everywhere = (Link.ofRecords (front ++ back) none origin).1)
    (idle : ∀ request ∈ setting.requests, request.id = id → ∀ key,
      request.Needs setting.options key → ¬record.AppliesAt key)
    (surveyed : Passes.surveys setting = .ok surveys)
    (resurveyed : Passes.surveys { setting with
      everywhere := (Link.ofRecords (front ++ record :: back) none origin).1 } = .ok others) :
    Parallel setting { setting with
      everywhere := (Link.ofRecords (front ++ record :: back) none origin).1 }
        surveys others id := by
  refine parallel_of_links surveyed resurveyed
    fun request asked called survey done consumer member => ?_
  have needed := (Survey.exists_consumer_iff done).mp ⟨consumer, member, rfl⟩
  have passes := idle request asked called consumer.key needed
  rw [split, Link.fst_ofRecords, Link.fst_ofRecords, List.filterMap_append, List.filterMap_append,
    List.find?_append, List.find?_append, List.filterMap_cons]
  cases read : Link.ofRecord record none with
  | error fault => rfl
  | ok link =>
    have missed : link.appliesTo consumer.slot = false := by
      rw [← Bool.not_eq_true, Link.appliesTo_iff consumer.kind]
      exact fun applies => passes ⟨link, read, applies⟩
    simp only [Except.toOption, List.find?_cons, missed]

end Passes

end ApiWiring
