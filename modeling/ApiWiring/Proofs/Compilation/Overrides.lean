import ApiWiring.Proofs.Compilation.Course
import ApiWiring.Proofs.Wiring.Overrides

/-!
# What users ask for in a compilation

A user has two ways to say where a value comes from: a link, and an entry of a dictionary. In a
compilation that succeeds a link that names a slot which is there always counts; and where none
does, the first place of the value that a user has stocked counts, save for a `name` property that a
value of its body is made from.
-/
namespace ApiWiring.Compilation

variable {input : Input} {output : Output}

/-- The link that a user asks for at a slot of a request: of those written at the request and those
that hold everywhere the first one that applies. -/
def askedLink? (input : Input) (request : Request) (slot : Slot) : Option Link :=
  (Survey.linksAt request ++ (everywhere input).1).find? (·.appliesTo slot)

/-- The response slot that a link asks for at a slot of a request, if it is among those surveyed. -/
def askedSlot? (input : Input) (surveys : List Survey) (request : Request) (slot : Slot) :
    Option Slot :=
  (askedLink? input request slot).bind
    (Link.producerSlot? (Passes.inference (setting input) surveys).catalog)

/-- Whether a wiring gives a consumer what the user has put at a place: the entry there, or, if the
consumer supplies another value of its body, the unique name made of its container and `name`. -/
structure Follows (wiring : Wiring) (consumer : Consumer) (place : Place) : Prop where
  /-- A consumer that supplies no other value has the entry, up to the case of its name. -/
  entry : ¬Passes.Supplies wiring consumer.key → ∃ entry,
    wiring.producerAt? consumer.key = some (.dictionary entry) ∧ place.Gives consumer entry
  /-- A consumer that supplies another value is a property `name` of a body with its unique name. -/
  name : Passes.Supplies wiring consumer.key →
    consumer.kind = .body ∧ consumer.slot.name = "name" ∧ ∃ container entry,
      consumer.slot.containerName? = some container ∧
        wiring.producerAt? consumer.key = some (.dictionary entry) ∧
          entry.section_ = .uuidSuffix ∧
            Text.EqualIgnoringCase entry.name (container ++ "_" ++ consumer.slot.name)

/-- If a compilation succeeds, every consumer surveyed has what a user asks for. If the first link
that applies to it names a response slot that is there, this slot supplies it. Otherwise, if some of
its places are stocked, it follows the first of them. -/
theorem overrides_win (done : compile input = .ok output) :
    ∃ surveys result, Passes.surveys (setting input) = .ok surveys ∧
      Passes.run (setting input) = .ok result ∧
        ∀ request ∈ input.requests, ∀ survey,
          Survey.ofRequest input.options (everywhere input).1 request = .ok survey →
            ∀ consumer ∈ survey.consumers,
              (∀ slot, askedSlot? input surveys request consumer.slot = some slot →
                result.wired.wiring.producerAt? consumer.key = some (.response slot)) ∧
              (askedSlot? input surveys request consumer.slot = none →
                (∃ place ∈ consumer.places,
                  place.Stocked (input.ofEndpoint.get? request.id.endpoint) input.dictionary) →
                ∃ place : Place, place.IsFirst (input.ofEndpoint.get? request.id.endpoint)
                    input.dictionary consumer ∧
                  Follows result.wired.wiring consumer place) := by
  obtain ⟨result, _, ran, _⟩ := compile_eq_ok done
  obtain ⟨surveys, wired, progress, surveyed, started, finished, built, _⟩ := Passes.run_eq_ok ran
  refine ⟨surveys, result, surveyed, ran, fun request asked survey done consumer member => ?_⟩
  have listed : survey ∈ surveys := by
    obtain ⟨other, inside, same⟩ := Passes.survey_of_mem_requests surveyed asked
    obtain rfl : survey = other := Except.ok.inj (done.symm.trans same)
    exact inside
  have linked : (Passes.inference (setting input) surveys).linkedProducer? consumer =
      askedSlot? input surveys request consumer.slot := by
    rw [Inference.linkedProducer?, Survey.link_of_mem_consumers done member]
    rfl
  have owner : survey.request = request.id := (Survey.ofRequest_eq_ok done).1
  constructor
  · intro slot names
    have early := Passes.linked_of_first surveyed started listed member (linked.trans names)
    rw [built]
    exact Passes.producerAt?_of_not_supplies surveyed started finished early
      fun entry => absurd entry Bool.false_ne_true
  · intro nothing stocked
    obtain ⟨place, first⟩ := Place.exists_isFirst stocked
    refine ⟨place, first, fun apart => ?_, fun supplies => ?_⟩
    · rw [← owner] at first
      obtain ⟨entry, early, gives⟩ := Passes.stocked_of_first surveyed started listed member
        (linked.trans nothing) first
      rw [built] at apart ⊢
      exact ⟨entry, Passes.producerAt?_of_not_supplies surveyed started finished early
        fun _ => apart, gives⟩
    · exact Passes.named_of_supplies surveyed ran listed member supplies

/-! ## A search by owner and page -/

/-- The request that creates an owner. -/
def ownerRequest : RequestId := ⟨"/owners", .post⟩

/-- The request that searches. -/
def searchRequest : Request where
  id := ⟨"/search", .get⟩
  pathParameters := []
  queryParameters := ⟨[⟨"owner", .leaf (.plain "owner" (.ofType .int))⟩,
    ⟨"page", .leaf (.plain "page" (.ofType .int))⟩], none⟩
  bodyParameters := .empty
  response := none
  links := []

/-- A search by an owner, for whom a user has both a link and an entry, and by a page, which the
dictionary of the endpoint and the starting one spell differently. -/
def searchInput : Input where
  requests := [
    { id := ownerRequest
      pathParameters := []
      queryParameters := .empty
      bodyParameters := .empty
      response := some (.inner ⟨"", none, .object, true, false⟩
        [.leaf (.plain "id" (.ofType .int))])
      links := [] },
    searchRequest]
  records := [⟨some "/owners", some "POST", some "id", none, none, some "owner", none⟩]
  dictionary := { Dictionary.empty with
    custom := .ofList [("owner", ["1"]), ("page", ["1"])] }
  ofEndpoint := .ofList
    [("/search", { Dictionary.empty with uuidSuffix := .ofList [("Page", "p")] })]
  options := .standard

/-- The owner that the search reads, with its link. -/
def searchedOwner : Consumer where
  slot := ⟨searchRequest.id, "owner", .query ⟨["owner"]⟩, none, .int⟩
  kind := .query
  link := some ⟨ownerRequest, .named "id", none, .named "owner", []⟩

/-- The page that it reads. -/
def searchedPage : Consumer :=
  .plain ⟨searchRequest.id, "page", .query ⟨["page"]⟩, none, .int⟩ .query

/-- The identity that creating an owner answers with. -/
def createdOwner : Slot := ⟨ownerRequest, "id", .body ⟨["id"]⟩, none, .int⟩

/-- In `searchInput` the link supplies the owner, and the first stocked place the page. -/
theorem searchInput_overrides_win :
    ∃ output surveys result, compile searchInput = .ok output ∧
      Passes.surveys (setting searchInput) = .ok surveys ∧
        Passes.run (setting searchInput) = .ok result ∧
          askedSlot? searchInput surveys searchRequest searchedOwner.slot = some createdOwner ∧
            result.wired.wiring.producerAt? searchedOwner.key = some (.response createdOwner) ∧
          askedSlot? searchInput surveys searchRequest searchedPage.slot = none ∧
            ∃ (place : Place) (entry : CustomPayload),
              place.IsFirst (searchInput.ofEndpoint.get? "/search") searchInput.dictionary
                  searchedPage ∧
                result.wired.wiring.producerAt? searchedPage.key = some (.dictionary entry) ∧
                  place.Gives searchedPage entry := by
  obtain ⟨output, _, compiled, _, _⟩ : ∃ output result, compile searchInput = .ok output ∧
      Passes.run (setting searchInput) = .ok result ∧ () = () :=
    compile_of_computed (fun _ _ => ()) (by decide +kernel) (by decide)
  obtain ⟨surveys, result, surveyed, ran, win⟩ := overrides_win compiled
  have asked : (Passes.surveys (setting searchInput)).toOption.map (fun surveys =>
      [searchedOwner, searchedPage].map fun consumer =>
        askedSlot? searchInput surveys searchRequest consumer.slot) =
      some [some createdOwner, none] := by decide +kernel
  rw [surveyed] at asked
  obtain ⟨owner, page⟩ := by simpa using Option.some.inj asked
  obtain ⟨survey, made, listed⟩ := Option.map_eq_some_iff.mp
    (show ((Survey.ofRequest searchInput.options (everywhere searchInput).1
      searchRequest).toOption.map (·.consumers)) = some [searchedOwner, searchedPage] by
        decide +kernel)
  have consumers := win searchRequest (.tail _ (.head _)) survey (Outcome.ok_of_toOption made)
  rw [listed] at consumers
  obtain ⟨place, first, follows⟩ := (consumers searchedPage (.tail _ (.head _))).2 page
    ⟨⟨true, "page", .uuidSuffix⟩, by decide, _, rfl, "Page", by decide, by decide⟩
  obtain ⟨entry, given, gives⟩ := follows.entry fun supplies => nomatch (follows.name supplies).1
  exact ⟨output, surveys, result, compiled, surveyed, ran, owner,
    (consumers searchedOwner (.head _)).1 _ owner, page, place, entry, first, given, gives⟩

end ApiWiring.Compilation
