import ApiWiring.Proofs.Representatives
import ApiWiring.Proofs.Wiring.Producers
import ApiWiring.Proofs.Wiring.Registration

/-!
# Which of several slots is preferred

Where several registered slots would do, one is preferred: of the slots that a link names and of
those that create a path parameter's resource, one nearest to the root; of the properties that may
supply an `id` of their own body, one with the longest type name in common, and of these one nearest
to the root. What is still equal is decided by the order of registration. `FirstBest` says what it
is to be preferred, for any list and any way to compare its members, and not how the member is
found. It has at most one answer, whatever the comparison is like, so a choice that always gives a
first best member gives the only one.
-/
namespace ApiWiring

/-- Whether a member of a list is the first of the best ones: it is better than every member before
it, and no member behind it is better. -/
def FirstBest {α : Type} (better : α → α → Prop) (members : List α) (chosen : α) : Prop :=
  ∃ front back, members = front ++ chosen :: back ∧ (∀ earlier ∈ front, better chosen earlier) ∧
    ∀ later ∈ back, ¬better later chosen

namespace FirstBest

variable {α : Type} {better finer : α → α → Prop} {members : List α} {chosen other : α}

/-- The first best member of a list is in it. -/
theorem mem (first : FirstBest better members chosen) : chosen ∈ members := by
  obtain ⟨front, back, split, _⟩ := first
  rw [split]
  exact List.mem_append_right front (.head back)

/-- The empty list has no first best member. -/
theorem ne_nil (first : FirstBest better members chosen) : members ≠ [] :=
  List.ne_nil_of_mem first.mem

/-- Of two first best members of a list neither is behind the other one. -/
theorem eq_of_split {front middle back rest : List α}
    (split : chosen :: back = middle ++ other :: rest)
    (beats : ∀ earlier ∈ front ++ middle, better other earlier)
    (unbeaten : ∀ later ∈ back, ¬better later chosen) : chosen = other := by
  cases middle with
  | nil => exact (List.cons.inj split).1
  | cons first between =>
    obtain ⟨rfl, behind⟩ := List.cons.inj split
    have isBetter : better other chosen := beats chosen (List.mem_append_right front (.head between))
    have isBehind : other ∈ back := by
      rw [behind]
      exact List.mem_append_right between (.head rest)
    exact absurd isBetter (unbeaten other isBehind)

/-- A list has at most one first best member. -/
theorem unique (first : FirstBest better members chosen) (second : FirstBest better members other) :
    chosen = other := by
  obtain ⟨front, back, split, beats, unbeaten⟩ := first
  obtain ⟨otherFront, otherBack, otherSplit, otherBeats, otherUnbeaten⟩ := second
  rw [split, List.append_eq_append_iff] at otherSplit
  rcases otherSplit with ⟨middle, longer, behind⟩ | ⟨middle, longer, behind⟩
  · rw [longer] at otherBeats
    exact eq_of_split behind otherBeats unbeaten
  · rw [longer] at beats
    exact (eq_of_split behind beats otherUnbeaten).symm

/-- The first best of the members that pass a test is the first best of all, in a way to compare
them that puts those that pass before the others and is the same among those that pass. -/
theorem of_filter {test : α → Bool} (first : FirstBest finer (members.filter test) chosen)
    (same : ∀ left ∈ members, ∀ right ∈ members, test left = true → test right = true →
      (better left right ↔ finer left right))
    (passing : ∀ left ∈ members, ∀ right ∈ members, test left = true → test right = false →
      better left right ∧ ¬better right left) : FirstBest better members chosen := by
  obtain ⟨listed, passed⟩ := List.mem_filter.mp first.mem
  obtain ⟨front, back, split, beats, unbeaten⟩ := first
  obtain ⟨before, rest, rfl, rfl, cut⟩ := List.filter_eq_append_iff.mp split
  obtain ⟨skipped, behind, rfl, refused, _, rfl⟩ := List.filter_eq_cons_iff.mp cut
  refine ⟨before ++ skipped, behind, by rw [List.append_assoc], ?_, ?_⟩
  · intro earlier member
    have inside : earlier ∈ before ++ (skipped ++ chosen :: behind) := by
      rw [← List.append_assoc]
      exact List.mem_append_left _ member
    cases tested : test earlier with
    | false => exact (passing chosen listed earlier inside passed tested).1
    | true =>
      have inFront : earlier ∈ before := by
        refine (List.mem_append.mp member).resolve_right fun inSkipped => ?_
        exact refused earlier inSkipped tested
      have beaten := beats earlier (List.mem_filter.mpr ⟨inFront, tested⟩)
      exact (same chosen listed earlier inside passed tested).mpr beaten
  · intro later member
    have inside : later ∈ before ++ (skipped ++ chosen :: behind) :=
      List.mem_append_right _ (List.mem_append_right _ (.tail _ member))
    cases tested : test later with
    | false => exact (passing chosen listed later inside passed tested).2
    | true =>
      rw [same later inside chosen listed tested passed]
      exact unbeaten later (List.mem_filter.mpr ⟨member, tested⟩)

/-- The first member with the least measure is the first best one by this measure. -/
theorem of_minOn? {measure : α → Nat} (least : members.minOn? measure = some chosen) :
    FirstBest (measure · < measure ·) members chosen := by
  induction members generalizing chosen with
  | nil => cases least
  | cons head rest ih =>
    rw [List.minOn?_cons, Option.some.injEq] at least
    cases later : rest.minOn? measure with
    | none =>
      have alone : rest = [] := by
        by_contra more
        have found := (List.isSome_minOn?_iff (f := measure)).mpr more
        rw [later] at found
        cases found
      rw [later, Option.elim_none] at least
      subst least alone
      exact ⟨[], [], rfl, fun _ member => absurd member List.not_mem_nil,
        fun _ member => absurd member List.not_mem_nil⟩
    | some next =>
      obtain ⟨front, back, rfl, beats, unbeaten⟩ := ih later
      rw [later, Option.elim_some] at least
      by_cases before : measure head ≤ measure next
      · rw [minOn_eq_left before] at least
        subst least
        refine ⟨[], front ++ next :: back, rfl, fun _ member => absurd member List.not_mem_nil, ?_⟩
        intro other member smaller
        rcases List.mem_append.mp member with inFront | inRest
        · have := beats other inFront
          omega
        · rcases List.mem_cons.mp inRest with rfl | inBack
          · omega
          · have := unbeaten other inBack
            omega
      · rw [minOn_eq_right before] at least
        subst least
        refine ⟨head :: front, back, rfl, ?_, unbeaten⟩
        intro earlier member
        rcases List.mem_cons.mp member with rfl | inFront
        · exact Nat.lt_of_not_le before
        · exact beats earlier inFront

end FirstBest

/-- A choice that gives nothing on the empty list and otherwise a first best member gives exactly
the first best member. -/
theorem eq_some_iff_firstBest {α : Type} {better : α → α → Prop} {members : List α}
    {choice : Option α} (there : members ≠ [] → choice.isSome)
    (sound : ∀ chosen, choice = some chosen → FirstBest better members chosen) {chosen : α} :
    choice = some chosen ↔ FirstBest better members chosen := by
  refine ⟨sound chosen, fun first => ?_⟩
  obtain ⟨other, found⟩ := Option.isSome_iff_exists.mp (there first.ne_nil)
  rw [found, first.unique (sound other found)]

/-- The first member with the least measure is exactly the first best one by this measure. -/
theorem minOn?_eq_some_iff {α : Type} {members : List α} {measure : α → Nat} {chosen : α} :
    members.minOn? measure = some chosen ↔ FirstBest (measure · < measure ·) members chosen :=
  eq_some_iff_firstBest List.isSome_minOn?_iff.mpr fun _ => FirstBest.of_minOn?

/-- There is no member with the least measure exactly where there is no member. -/
theorem minOn?_eq_none_iff {α : Type} {members : List α} {measure : α → Nat} :
    members.minOn? measure = none ↔ members = [] := by
  rw [← Option.not_isSome_iff_eq_none, List.isSome_minOn?_iff, not_not]

/-! ## Slots -/

namespace Slot

/-- Whether a slot is nearer to the root than another one. -/
def IsNearer (slot other : Slot) : Prop := slot.accessPath.length < other.accessPath.length

/-- Whether a type name is one of those of both slots. -/
def Shares (slot consumer : Slot) (type : String) : Prop :=
  type ∈ slot.candidateTypeNames ∧ type ∈ consumer.candidateTypeNames

/-- Whether a slot shares with a consumer a longer type name than another slot does. -/
def SharesLonger (consumer slot other : Slot) : Prop :=
  ∃ type, slot.Shares consumer type ∧
    ∀ another, other.Shares consumer another → another.utf8ByteSize < type.utf8ByteSize

/-- Whether a slot is preferred to another one as the property that supplies a consumer of the same
body: it shares a longer type name with it, or it shares one as long and is nearer to the root. -/
def IsPreferred (consumer slot other : Slot) : Prop :=
  SharesLonger consumer slot other ∨ ¬SharesLonger consumer other slot ∧ slot.IsNearer other

end Slot

namespace Registration

/-- The registered slots of a name in the responses to a request, in the order of registration. -/
def answersOf (registrations : List Registration) (request : RequestId) (name : String) :
    List Slot :=
  (responses registrations).filter fun slot => slot.name == name && slot.request == request

/-- The registered slots of a name in the responses to the request that puts something at an
endpoint, as far as they may supply a consumer, in the order of registration. -/
def putsAt (registrations : List Registration) (allowGet : Bool) (consumer : Consumer)
    (endpoint name : String) : List Slot :=
  (answersOf registrations ⟨endpoint, .put⟩ name).filter (isValidProducer allowGet · consumer)

/-- The registered `name` properties of a consumer's body that are nearer to the root than it, not
beside it, and share a type name with it, in the order of registration. -/
def partnersOf (registrations : List Registration) (consumer : Slot) : List Slot :=
  (siblings registrations).filter fun slot =>
    slot.name == "name" && slot.request == consumer.request &&
      decide (slot.accessPath.length < consumer.accessPath.length ∧
        slot.accessPath.parent ≠ consumer.accessPath.parent ∧
          ∃ type ∈ slot.candidateTypeNames, type ∈ consumer.candidateTypeNames)

end Registration

namespace Inference

variable {registrations : List Registration} {allowGet : Bool} {consumer : Consumer}
  {slot left right : Slot} {name : String}

/-! ## The slot that a link names -/

/-- By name a link gives the first of the slots nearest to the root. -/
theorem producerSlot?_of_named {link : Link} (named : link.producerParameter = .named name) :
    link.producerSlot? (.ofRegistrations registrations) =
      (Registration.answersOf registrations link.producer name).minOn? (·.accessPath.length) := by
  have listed : ((Catalog.ofRegistrations registrations).named name).filter
      (·.request == link.producer) = Registration.answersOf registrations link.producer name := by
    rw [Catalog.ofRegistrations_eq_ofLists, Catalog.named_ofLists, List.filter_filter]
    refine List.filter_congr fun slot _ => ?_
    exact Bool.and_comm _ _
  rw [Link.producerSlot?, named, ← listed]
  rfl

/-! ## The slot of the request that creates a resource -/

/-- The slots of the request that puts something at an endpoint are those registered. -/
theorem valid_atEndpoint_put (endpoint name : String) :
    (ofRegistrations registrations allowGet).valid consumer
        ((ofRegistrations registrations allowGet).catalog.atEndpoint name endpoint [.put]) =
      Registration.putsAt registrations allowGet consumer endpoint name := by
  have listed : (Catalog.ofRegistrations registrations).atEndpoint name endpoint [.put] =
      Registration.answersOf registrations ⟨endpoint, .put⟩ name := by
    rw [Catalog.ofRegistrations_eq_ofLists, Catalog.atEndpoint_ofLists]
    refine List.filter_congr fun slot _ => ?_
    have request : (slot.request == ⟨endpoint, .put⟩) =
        (slot.request.endpoint == endpoint && [Method.put].contains slot.request.method) := by
      cases slot.request
      rw [Bool.eq_iff_iff]
      simp
    rw [request, Bool.and_assoc]
  rw [valid, ofRegistrations, listed]
  rfl

/-- The slot of the request that creates a resource is, at the endpoint through the parameter and
under the first name that has one, the first of those nearest to the root. -/
theorem created?_eq_some_iff :
    (ofRegistrations registrations allowGet).created? consumer name = some slot ↔
      ∃ endpoint front candidate back,
        Endpoint.through? consumer.slot.name consumer.slot.request.endpoint = some endpoint ∧
        [name, "id", "name"] = front ++ candidate :: back ∧
        (∀ earlier ∈ front,
          Registration.putsAt registrations allowGet consumer endpoint earlier = []) ∧
        FirstBest Slot.IsNearer
          (Registration.putsAt registrations allowGet consumer endpoint candidate) slot := by
  simp only [created?, valid_atEndpoint_put, Option.bind_eq_bind, Option.bind_eq_some_iff,
    Representatives.findSome?_eraseDups, List.findSome?_eq_some_iff, minOn?_eq_some_iff,
    minOn?_eq_none_iff]
  constructor
  · rintro ⟨endpoint, cut, front, candidate, back, split, first, nothing⟩
    exact ⟨endpoint, front, candidate, back, cut, split, nothing, first⟩
  · rintro ⟨endpoint, front, candidate, back, cut, split, nothing, first⟩
    exact ⟨endpoint, cut, front, candidate, back, split, first, nothing⟩

/-! ## The property of the same body -/

/-- The length found for two slots is that of the longest type name that they share. -/
theorem sharedTypeLength?_eq_some_iff {length : Nat} :
    sharedTypeLength? left right = some length ↔
      (∃ type, left.Shares right type ∧ type.utf8ByteSize = length) ∧
        ∀ type, left.Shares right type → type.utf8ByteSize ≤ length := by
  have lengths : ∀ other, other ∈ (left.candidateTypeNames.filter
      right.candidateTypeNames.contains).map String.utf8ByteSize ↔
        ∃ type, left.Shares right type ∧ type.utf8ByteSize = other := by
    intro other
    simp only [List.mem_map, List.mem_filter, List.contains_iff_mem, Slot.Shares]
  rw [sharedTypeLength?, List.max?_eq_some_iff, lengths]
  refine and_congr_right fun _ => ?_
  constructor
  · intro bound type shared
    exact bound _ ((lengths _).mpr ⟨type, shared, rfl⟩)
  · intro bound other listed
    obtain ⟨type, shared, rfl⟩ := (lengths other).mp listed
    exact bound type shared

/-- Of two slots the one with the greater length shares a longer type name. -/
theorem sharesLonger_iff {consumer : Slot} {ofLeft ofRight : Nat}
    (leftLength : sharedTypeLength? left consumer = some ofLeft)
    (rightLength : sharedTypeLength? right consumer = some ofRight) :
    Slot.SharesLonger consumer left right ↔ ofRight < ofLeft := by
  obtain ⟨⟨longestLeft, sharedLeft, rfl⟩, boundLeft⟩ := sharedTypeLength?_eq_some_iff.mp leftLength
  obtain ⟨⟨longestRight, sharedRight, rfl⟩, boundRight⟩ :=
    sharedTypeLength?_eq_some_iff.mp rightLength
  constructor
  · rintro ⟨type, shared, longer⟩
    exact Nat.lt_of_lt_of_le (longer longestRight sharedRight) (boundLeft type shared)
  · intro longer
    exact ⟨longestLeft, sharedLeft, fun another shared =>
      Nat.lt_of_le_of_lt (boundRight another shared) longer⟩

/-- Among properties that may supply a consumer of their body, the first of those nearest to the root
of those with the longest type name. -/
def preferred? (consumer : Slot) (members : List Slot) : Option Slot :=
  let longest := (members.filterMap (sharedTypeLength? · consumer)).max?
  (members.filter fun slot => sharedTypeLength? slot consumer == longest).minOn?
    (·.accessPath.length)

/-- Some of the slots that share type names with a consumer share the longest one. -/
theorem exists_longest {consumer : Slot} {members : List Slot}
    (shared : ∀ slot ∈ members, (sharedTypeLength? slot consumer).isSome) (there : members ≠ []) :
    ∃ longest, (members.filterMap (sharedTypeLength? · consumer)).max? = some longest ∧
      ∃ slot ∈ members, sharedTypeLength? slot consumer = some longest := by
  obtain ⟨slot, member⟩ := List.exists_mem_of_ne_nil members there
  obtain ⟨length, measured⟩ := Option.isSome_iff_exists.mp (shared slot member)
  have listed : length ∈ members.filterMap (sharedTypeLength? · consumer) :=
    List.mem_filterMap.mpr ⟨slot, member, measured⟩
  obtain ⟨longest, greatest⟩ :=
    Option.isSome_iff_exists.mp (List.isSome_max?_iff.mpr (List.ne_nil_of_mem listed))
  have attained := (List.max?_eq_some_iff.mp greatest).1
  exact ⟨longest, greatest, List.mem_filterMap.mp attained⟩

/-- Among slots that share type names with a consumer one is preferred, if there are any. -/
theorem preferred?_isSome {consumer : Slot} {members : List Slot}
    (shared : ∀ slot ∈ members, (sharedTypeLength? slot consumer).isSome) (there : members ≠ []) :
    (preferred? consumer members).isSome := by
  obtain ⟨longest, greatest, best, member, measured⟩ := exists_longest shared there
  refine List.isSome_minOn?_of_mem (List.mem_filter.mpr ⟨member, ?_⟩)
  rw [greatest, measured, beq_self_eq_true]

/-- The slot that is preferred shares the longest type name, and is nearest to the root among those
that share one as long. -/
theorem firstBest_of_preferred? {consumer : Slot} {members : List Slot}
    (shared : ∀ slot ∈ members, (sharedTypeLength? slot consumer).isSome)
    (found : preferred? consumer members = some slot) :
    FirstBest (Slot.IsPreferred consumer) members slot := by
  have nearest := FirstBest.of_minOn? found
  obtain ⟨longest, greatest, _⟩ :=
    exists_longest shared (List.ne_nil_of_mem (List.mem_filter.mp nearest.mem).1)
  rw [greatest] at nearest
  have bound := (List.max?_eq_some_iff.mp greatest).2
  refine nearest.of_filter ?_ ?_
  · -- Among those with the longest name only the way to the root counts.
    intro left _ right _ ofLeft ofRight
    rw [beq_iff_eq] at ofLeft ofRight
    have notLeft : ¬Slot.SharesLonger consumer left right := fun longer =>
      Nat.lt_irrefl longest ((sharesLonger_iff ofLeft ofRight).mp longer)
    have notRight : ¬Slot.SharesLonger consumer right left := fun longer =>
      Nat.lt_irrefl longest ((sharesLonger_iff ofRight ofLeft).mp longer)
    exact ⟨fun better => (better.resolve_left notLeft).2, fun nearer => .inr ⟨notRight, nearer⟩⟩
  · intro left _ right inside ofLeft ofRight
    obtain ⟨length, measured⟩ := Option.isSome_iff_exists.mp (shared right inside)
    rw [beq_iff_eq] at ofLeft
    rw [measured, beq_eq_false_iff_ne, ne_eq, Option.some.injEq] at ofRight
    have shorter : length < longest :=
      Nat.lt_of_le_of_ne (bound length (List.mem_filterMap.mpr ⟨right, inside, measured⟩)) ofRight
    have longer : Slot.SharesLonger consumer left right :=
      (sharesLonger_iff ofLeft measured).mpr shorter
    have notLonger : ¬Slot.SharesLonger consumer right left := fun other =>
      Nat.lt_asymm shorter ((sharesLonger_iff measured ofLeft).mp other)
    exact ⟨.inl longer, not_or.mpr ⟨notLonger, fun nearer => nearer.1 longer⟩⟩

/-- A property that may supply a consumer of its body shares a type name with it. -/
theorem shares_of_partner {consumer : Slot} :
    ∀ slot ∈ Registration.partnersOf registrations consumer,
      (sharedTypeLength? slot consumer).isSome := by
  intro slot partner
  have passed := (List.mem_filter.mp partner).2
  rw [Bool.and_eq_true, decide_eq_true_eq] at passed
  exact sharedTypeLength?_isSome_iff.mpr passed.2.2.2

/-- A value that is an `id` with a container is supplied by the preferred one of the properties
registered for its body. -/
theorem sibling?_eq_preferred? :
    (ofRegistrations registrations allowGet).sibling? consumer =
      if consumer.kind = .body ∧ consumer.slot.name = "id" ∧
        consumer.slot.containerName?.isSome then
        preferred? consumer.slot (Registration.partnersOf registrations consumer.slot)
      else none := by
  have partners : ((ofRegistrations registrations allowGet).catalog.siblingsOf "name"
      consumer.slot.request).filter (isValidSibling · consumer.slot) =
        Registration.partnersOf registrations consumer.slot := by
    rw [ofRegistrations, Catalog.ofRegistrations_eq_ofLists, Catalog.siblingsOf_ofLists,
      List.filter_filter, List.filter_filter, Registration.partnersOf]
    refine List.filter_congr fun slot _ => ?_
    rw [Bool.eq_iff_iff]
    simp only [isValidSibling, Bool.and_eq_true, decide_eq_true_eq, beq_iff_eq, bne_iff_ne,
      sharedTypeLength?_isSome_iff]
    constructor
    · rintro ⟨⟨⟨⟨nearer, apart⟩, shared⟩, request⟩, named⟩
      exact ⟨⟨named, request⟩, nearer, apart, shared⟩
    · rintro ⟨⟨named, request⟩, nearer, apart, shared⟩
      exact ⟨⟨⟨⟨nearer, apart⟩, shared⟩, request⟩, named⟩
  rw [sibling?, partners]
  rfl

/-- The property that supplies an `id` of its own body is exactly the first of the preferred ones
that may do so. -/
theorem sibling?_eq_some_iff :
    (ofRegistrations registrations allowGet).sibling? consumer = some slot ↔
      (consumer.kind = .body ∧ consumer.slot.name = "id" ∧
        consumer.slot.containerName?.isSome) ∧
      FirstBest (Slot.IsPreferred consumer.slot)
        (Registration.partnersOf registrations consumer.slot) slot := by
  rw [sibling?_eq_preferred?, Option.ite_none_right_eq_some]
  refine and_congr_right fun _ => ?_
  exact eq_some_iff_firstBest (preferred?_isSome shares_of_partner)
    fun _ => firstBest_of_preferred? shares_of_partner

/-- No property supplies a value of its own body exactly where the value is no `id` with a container
or no property may supply it. -/
theorem sibling?_eq_none_iff :
    (ofRegistrations registrations allowGet).sibling? consumer = none ↔
      ¬(consumer.kind = .body ∧ consumer.slot.name = "id" ∧
        consumer.slot.containerName?.isSome) ∨
      Registration.partnersOf registrations consumer.slot = [] := by
  rw [sibling?_eq_preferred?, ite_eq_right_iff]
  constructor
  · intro nothing
    rw [← imp_iff_not_or]
    intro asks
    by_contra more
    have found := preferred?_isSome shares_of_partner more
    rw [nothing asks] at found
    cases found
  · rintro (refused | nobody) asks
    · exact absurd asks refused
    · rw [nobody]
      rfl

/-! ## All choices -/

/-- Every choice among several registered slots is the best one, and of those that are equally good
the one registered first.

A link by name gives, of the slots of exactly this name in the responses to its request, the first
of those nearest to the root, and none where there are none. The slot of the request that creates a
parameter's resource is, under the first of the names that has one at the endpoint through the
parameter, the first of those nearest to the root. An `id` of a body that has a container is
supplied by the first of the preferred `name` properties of the same body, and by none exactly where
there are none; no other value is supplied so. -/
theorem choices_are_best (registrations : List Registration) (allowGet : Bool)
    (consumer : Consumer) :
    (∀ (link : Link) (name : String), link.producerParameter = .named name →
      let answers := Registration.answersOf registrations link.producer name
      (∀ slot, link.producerSlot? (.ofRegistrations registrations) = some slot ↔
        FirstBest Slot.IsNearer answers slot) ∧
      (link.producerSlot? (.ofRegistrations registrations) = none ↔ answers = [])) ∧
    (∀ name slot, (ofRegistrations registrations allowGet).created? consumer name = some slot ↔
      ∃ endpoint front candidate back,
        Endpoint.through? consumer.slot.name consumer.slot.request.endpoint = some endpoint ∧
        [name, "id", "name"] = front ++ candidate :: back ∧
        (∀ earlier ∈ front,
          Registration.putsAt registrations allowGet consumer endpoint earlier = []) ∧
        FirstBest Slot.IsNearer
          (Registration.putsAt registrations allowGet consumer endpoint candidate) slot) ∧
    (∀ slot, (ofRegistrations registrations allowGet).sibling? consumer = some slot ↔
      (consumer.kind = .body ∧ consumer.slot.name = "id" ∧
        consumer.slot.containerName?.isSome) ∧
      FirstBest (Slot.IsPreferred consumer.slot)
        (Registration.partnersOf registrations consumer.slot) slot) ∧
    ((ofRegistrations registrations allowGet).sibling? consumer = none ↔
      ¬(consumer.kind = .body ∧ consumer.slot.name = "id" ∧
        consumer.slot.containerName?.isSome) ∨
      Registration.partnersOf registrations consumer.slot = []) := by
  refine ⟨fun link name named => ?_, fun name slot => created?_eq_some_iff,
    fun slot => sibling?_eq_some_iff, sibling?_eq_none_iff⟩
  rw [producerSlot?_of_named named]
  exact ⟨fun slot => minOn?_eq_some_iff, minOn?_eq_none_iff⟩

/-- A value in the response of the request that puts an item in its place. -/
def itemSlot (path : List String) (type : PrimitiveType) : Slot :=
  ⟨⟨"/items/{itemId}", .put⟩, "id", .body ⟨path⟩, none, type⟩

/-- A property of the body that creates a graph of tables. -/
def graphSlot (path : List String) (name : String) : Slot :=
  ⟨⟨"/graphs", .post⟩, name, .body ⟨path ++ [name]⟩, none, .string⟩

/-- Three values of an item, of which two are equally near to the root, and four names in a graph,
of which two are equally near among those of the longest type. -/
def graphRegistrations : List Registration :=
  [.response (itemSlot ["meta", "id"] .string), .response (itemSlot ["id"] .int),
    .response (itemSlot ["id"] .string), .sibling (graphSlot ["table"] "name"),
    .sibling (graphSlot ["areas", "sourceTable"] "name"),
    .sibling (graphSlot ["sourceTables"] "name"), .sibling (graphSlot ["sourceTable"] "name")]

/-- A link to the `id` of an item. -/
def itemLink : Link :=
  ⟨⟨"/items/{itemId}", .put⟩, .named "id", none, .named "itemId", []⟩

/-- The parameter that names an item to be read. -/
def itemParameter : Consumer :=
  .plain (.ofPathParameter ⟨"/items/{itemId}", .get⟩ "itemId" .string none) .path

/-- The `id` of a table at the end of a link in a graph. -/
def tableId : Consumer := .plain (graphSlot ["links", "[0]", "sourceTable"] "id") .body

/-- The link, the parameter and the `id` are given the first of the best slots, and the parameter
itself has no sibling. -/
theorem graph_choices_are_best :
    itemLink.producerParameter = .named "id" ∧
    itemLink.producerSlot? (.ofRegistrations graphRegistrations) = some (itemSlot ["id"] .int) ∧
    FirstBest Slot.IsNearer
      (Registration.answersOf graphRegistrations itemLink.producer "id") (itemSlot ["id"] .int) ∧
    (∃ endpoint candidate, FirstBest Slot.IsNearer
      (Registration.putsAt graphRegistrations false itemParameter endpoint candidate)
      (itemSlot ["id"] .int)) ∧
    FirstBest (Slot.IsPreferred tableId.slot)
      (Registration.partnersOf graphRegistrations tableId.slot)
      (graphSlot ["sourceTables"] "name") ∧
    (ofRegistrations graphRegistrations false).sibling? itemParameter = none := by
  obtain ⟨ofLink, ofParameter, _, noSibling⟩ :=
    choices_are_best graphRegistrations false itemParameter
  obtain ⟨_, _, ofSibling, _⟩ := choices_are_best graphRegistrations false tableId
  have linked : itemLink.producerSlot? (.ofRegistrations graphRegistrations) =
      some (itemSlot ["id"] .int) := by decide +kernel
  have created : (ofRegistrations graphRegistrations false).created? itemParameter "itemId" =
      some (itemSlot ["id"] .int) := by decide +kernel
  have supplied : (ofRegistrations graphRegistrations false).sibling? tableId =
      some (graphSlot ["sourceTables"] "name") := by decide +kernel
  obtain ⟨endpoint, _, candidate, _, _, _, _, first⟩ := (ofParameter _ _).mp created
  exact ⟨rfl, linked, ((ofLink itemLink "id" rfl).1 _).mp linked, ⟨endpoint, candidate, first⟩,
    ((ofSibling _).mp supplied).2, noSibling.mpr (.inl (by decide))⟩

end Inference

end ApiWiring
