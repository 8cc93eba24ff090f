import ApiWiring.Proofs.Compilation.Rerun
import ApiWiring.Proofs.Wiring.LinkScope

/-!
# What an annotation reaches

An annotation that holds everywhere is nothing to the requests of an identity with no consumer that
it applies to, though it may change what other requests take and which entries they add to the
dictionary. It has to be the identity and not one request: two requests of one identity share their
consumers, so what the annotation supplies for one of them may leave a `name` property of both
without the unique name that it had.
-/
namespace ApiWiring.Compilation

variable {input : Input} {output annotated : Output}

/-- An input with other annotations that hold everywhere. -/
def Input.noting (input : Input) (records : List LinkRecord) : Input := { input with records }

/-- Put an annotation anywhere among those that hold everywhere. If both inputs compile, every value
that a request needs is known to both wirings and recorded with the same producer, up to the case of
the names of dictionary entries, unless the annotation applies to a consumer of some request with
the identity of this one. -/
theorem annotations_reach_where_they_apply {front back : List LinkRecord} {record : LinkRecord}
    (split : input.records = front ++ back) (done : compile input = .ok output)
    (noted : compile (input.noting (front ++ record :: back)) = .ok annotated) :
    ∃ result another, Passes.run (setting input) = .ok result ∧
      Passes.run (setting (input.noting (front ++ record :: back))) = .ok another ∧
        output.manifest = .ofWiring result.wired.wiring ∧
        annotated.manifest = .ofWiring another.wired.wiring ∧
          ∀ request ∈ input.requests, (∀ twin ∈ input.requests, twin.id = request.id → ∀ key,
              twin.Needs input.options key → ¬record.AppliesAt key) →
            ∀ key, request.Needs input.options key →
              result.wired.wiring.Knows key ∧
                result.wired.wiring.AgreeAt another.wired.wiring key := by
  obtain ⟨result, _, ran, _⟩ := compile_eq_ok done
  obtain ⟨another, _, reran, _⟩ := compile_eq_ok noted
  refine ⟨result, another, ran, reran, (reports_of_compile done ran).1,
    (reports_of_compile noted reran).1, fun request asked idle key needed => ?_⟩
  have owner : key.request = request.id := by cases needed <;> rfl
  have listed : (setting input).everywhere =
      (Link.ofRecords (front ++ back) none "global annotations").1 := by
    rw [← split]
    rfl
  refine ⟨(Passes.knows_of_run_iff ran).mpr ⟨request, asked, needed⟩, ?_⟩
  refine Passes.agreeAt_of_runs ran reran (fun surveys others surveyed resurveyed => ?_) owner
  exact Passes.parallel_of_record listed idle surveyed resurveyed

/-! ## Two requests of one identity -/

/-- Whether an annotation, wherever it is put, leaves each request as it was that has itself no
consumer to which it applies. -/
def LeavesOtherRequests (input : Input) (record : LinkRecord) : Prop :=
  ∀ front back, input.records = front ++ back → ∀ output, compile input = .ok output →
    ∀ annotated, compile (input.noting (front ++ record :: back)) = .ok annotated →
      ∀ result, Passes.run (setting input) = .ok result → ∀ another,
        Passes.run (setting (input.noting (front ++ record :: back))) = .ok another →
          ∀ request ∈ input.requests,
            (∀ key, request.Needs input.options key → ¬record.AppliesAt key) →
              ∀ key, request.Needs input.options key →
                result.wired.wiring.AgreeAt another.wired.wiring key

/-- A body that has a resource with a name. -/
def plainBody : PropertyTree :=
  .inner ⟨"", none, .object, true, false⟩
    [.inner ⟨"t", none, .object, true, false⟩ [.leaf (.plain "name" (.ofType .string))]]

/-- A request of the identity of `namedRequest` whose body has no other resource inside. -/
def plainRequest : Request where
  id := namedRequest.id
  pathParameters := []
  queryParameters := .empty
  bodyParameters := ⟨[⟨"b", plainBody⟩], none⟩
  response := none
  links := []

/-- The body of `namedRequest` sent to another endpoint. -/
def otherRequest : Request := { namedRequest with id := ⟨"/d", .post⟩ }

/-- A request that answers with an identity, `plainRequest` and `namedRequest` of one identity, and
the body of the latter sent elsewhere. -/
def twinInput : Input where
  requests := [
    { id := ⟨"/p", .post⟩
      pathParameters := []
      queryParameters := .empty
      bodyParameters := .empty
      response := some (.inner ⟨"", none, .object, true, false⟩
        [.leaf (.plain "id" (.ofType .string))])
      links := [] },
    plainRequest, namedRequest, otherRequest]
  records := []
  dictionary := .empty
  ofEndpoint := .empty
  options := .standard

/-- The identity answered supplies the inner identity in the body of `namedRequest`. -/
def twinRecord : LinkRecord :=
  ⟨some "/p", some "POST", some "id", some "/c", some "POST", some "/t/t/id", none⟩

/-- The name in a body of `twinInput`. -/
def nameKey (request : RequestId) : ConsumerKey := ⟨request, .body, "name", ⟨["t", "name"]⟩⟩

/-- `twinRecord` applies to nothing but the inner identity of that body. -/
theorem of_twinRecord_appliesAt {key : ConsumerKey} (applies : twinRecord.AppliesAt key) :
    key.request = namedRequest.id ∧ key.path = ⟨["t", "t", "id"]⟩ := by
  obtain ⟨link, read, there⟩ := applies
  have made : Link.ofRecord twinRecord none = .ok ⟨⟨"/p", .post⟩, .named "id",
      some namedRequest.id, .located ⟨["t", "t", "id"]⟩, []⟩ := by decide
  obtain rfl := Except.ok.inj (read.symm.trans made)
  refine ⟨(there.owned _ rfl).symm, ?_⟩
  rcases there.spoken with named | located
  · cases named
  · exact (LinkParameter.located.inj located).symm

/-- The producers of the two names, without and with `twinRecord`. -/
theorem producers_of_twinInput :
    (built? twinInput).map (fun made =>
        [namedRequest.id, otherRequest.id].map (made.1.wired.wiring.producerAt? <| nameKey ·)) =
      some [some (.dictionary (.uniqueName "t_name")), some (.dictionary (.uniqueName "t_name"))] ∧
    (built? (twinInput.noting [twinRecord])).map (fun made =>
        [namedRequest.id, otherRequest.id].map (made.1.wired.wiring.producerAt? <| nameKey ·)) =
      some [none, some (.dictionary (.uniqueName "t_name"))] := by
  constructor <;> decide +kernel

/-- Both requests with a name inside need it. -/
theorem needs_nameKey : plainRequest.Needs .standard (nameKey namedRequest.id) ∧
    otherRequest.Needs .standard (nameKey otherRequest.id) := by
  have named : AccessPath.EndsIn ⟨["t", "name"]⟩ "name" :=
    AccessPath.resourceName?_eq_some_iff.mp (by decide)
  constructor
  · exact .body rfl _ (.head _) _ _ (.tail _ (.tail _ (.head _))) "name" named
  · exact .body rfl _ (.head _) _ _ (.tail _ (.tail _ (.head _))) "name" named

/-- In `twinInput` the annotation leaves the name that is sent elsewhere as it was. -/
theorem twinInput_annotations_reach :
    ∃ output annotated result another, compile twinInput = .ok output ∧
      compile (twinInput.noting [twinRecord]) = .ok annotated ∧
        Passes.run (setting twinInput) = .ok result ∧
          Passes.run (setting (twinInput.noting [twinRecord])) = .ok another ∧
            result.wired.wiring.producerAt? (nameKey otherRequest.id) =
                some (.dictionary (.uniqueName "t_name")) ∧
              result.wired.wiring.AgreeAt another.wired.wiring (nameKey otherRequest.id) := by
  obtain ⟨made, noted⟩ := producers_of_twinInput
  obtain ⟨⟨result, _⟩, built, read⟩ := Option.map_eq_some_iff.mp made
  obtain ⟨⟨another, _⟩, rebuilt, _⟩ := Option.map_eq_some_iff.mp noted
  obtain ⟨output, done, ran, _⟩ := compile_of_built? built (by decide)
  obtain ⟨annotated, redone, reran, _⟩ := compile_of_built? rebuilt (by decide)
  have split : twinInput.records = [] ++ [] := rfl
  obtain ⟨one, other, sameRun, sameRerun, _, _, reach⟩ :=
    annotations_reach_where_they_apply split done redone
  obtain rfl : result = one := Except.ok.inj (ran.symm.trans sameRun)
  obtain rfl : another = other := Except.ok.inj (reran.symm.trans sameRerun)
  simp only [List.map_cons, List.map_nil, List.cons.injEq, and_true] at read
  have asked : otherRequest ∈ twinInput.requests := .tail _ (.tail _ (.tail _ (.head _)))
  have agree := reach otherRequest asked ?_ (nameKey otherRequest.id) needs_nameKey.2
  · exact ⟨output, annotated, result, another, done, redone, ran, reran, read.2, agree.2⟩
  · intro twin _ called key needed applies
    have owner : key.request = twin.id := by cases needed <;> rfl
    have elsewhere := owner.symm.trans (of_twinRecord_appliesAt applies).1
    rw [called] at elsewhere
    exact absurd elsewhere (by decide)

/-- In `twinInput` the annotation applies to no consumer of `plainRequest`, whose name still loses
its unique name: no identity is supplied by it any more. -/
theorem not_leavesOtherRequests_twinInput : ¬LeavesOtherRequests twinInput twinRecord := by
  intro leaves
  obtain ⟨made, noted⟩ := producers_of_twinInput
  obtain ⟨⟨result, _⟩, built, read⟩ := Option.map_eq_some_iff.mp made
  obtain ⟨⟨another, _⟩, rebuilt, reread⟩ := Option.map_eq_some_iff.mp noted
  obtain ⟨output, done, ran, _⟩ := compile_of_built? built (by decide)
  obtain ⟨annotated, redone, reran, _⟩ := compile_of_built? rebuilt (by decide)
  simp only [List.map_cons, List.map_nil, List.cons.injEq, and_true] at read reread
  have idle : ∀ key, plainRequest.Needs twinInput.options key → ¬twinRecord.AppliesAt key := by
    intro key needed applies
    have located := (of_twinRecord_appliesAt applies).2
    cases needed with
    | path parameter declared => cases declared
    | query enabled parameter selected => cases selected
    | body enabled parameter selected path node visited name named =>
      obtain rfl := List.mem_singleton.mp selected
      have paths : path ∈ (plainBody.visits .root).map (·.1) := List.mem_map_of_mem visited
      obtain rfl : path = ⟨["t", "t", "id"]⟩ := located
      exact absurd paths (by decide)
  have agree := leaves [] [] rfl output done annotated redone result ran another reran plainRequest
    (.tail _ (.head _)) idle (nameKey namedRequest.id) needs_nameKey.1
  have producer := agree.producer
  rw [read.1, reread.1] at producer
  cases producer

end ApiWiring.Compilation
