import ApiWiring.Proofs.Api.Endpoint
import ApiWiring.Proofs.Grammar.Failing
import ApiWiring.Proofs.Wiring.Connecting

/-!
# The parts of a request's path

The path of a request is sent in parts, two for every segment of the endpoint: a slash, and then the
segment itself or what is sent for the parameter it stands for. Which payload that is (`SendsFor`)
depends on the segment alone, on the parameters that are declared and on the producers of the
wiring, and not on the other segments; a parameter that is not declared is reported as often as the
endpoint has it. So the parts can be read back: with the segments in the places of their parameters
they make the endpoint again, without empty segments.
-/
namespace ApiWiring.Resolution

open Text

variable {wiring : Wiring} {request : Request} {segment name : String} {given : Parameter}
  {property : LeafProperty} {payload : Payload}

/-- What is sent for a segment of a request's endpoint. -/
inductive SendsFor (wiring : Wiring) (request : Request) : String → Payload → Prop where
  /-- A segment that is not in braces is sent as it is. -/
  | literal (segment : String) (plain : ∀ name, segment ≠ "\x7b" ++ name ++ "\x7d") :
    SendsFor wiring request segment (.text segment)
  /-- A parameter that is not declared is a text that the fuzzer varies. -/
  | undeclared (name : String) (missing : ∀ given ∈ request.pathParameters, given.name ≠ name) :
    SendsFor wiring request ("\x7b" ++ name ++ "\x7d") (.ofType .string)
  /-- A declared parameter that a response supplies is the value kept from the response. -/
  | kept (name : String) (declared : ∃ given ∈ request.pathParameters, given.name = name)
    (slot : Slot)
    (supplied : wiring.producerFor? request.id .path ⟨[name]⟩ = some (.response slot)) :
    SendsFor wiring request ("\x7b" ++ name ++ "\x7d") (.dynamic ⟨slot.variableName, slot.type⟩)
  /-- A declared parameter that a dictionary supplies is the entry. -/
  | stocked (name : String) (declared : ∃ given ∈ request.pathParameters, given.name = name)
    (entry : CustomPayload)
    (supplied : wiring.producerFor? request.id .path ⟨[name]⟩ = some (.dictionary entry)) :
    SendsFor wiring request ("\x7b" ++ name ++ "\x7d") (.custom entry)
  /-- A declared parameter that nothing supplies is what the first one of its name declares. -/
  | own (name : String) (front back : List Parameter) (given : Parameter) (property : LeafProperty)
    (split : request.pathParameters = front ++ given :: back) (named : given.name = name)
    (first : ∀ earlier ∈ front, earlier.name ≠ name) (single : given.payload = .leaf property)
    (unsupplied : wiring.producerFor? request.id .path ⟨[name]⟩ = none) :
    SendsFor wiring request ("\x7b" ++ name ++ "\x7d") property.payload

/-- The parts of a path for what is sent for its segments: a slash goes before each. -/
def behindSlashes (sent : List Payload) : List Payload :=
  sent.flatMap fun payload => [.text "/", payload]

/-- The names of the parameters among segments that a request does not declare, in their order. -/
def undeclaredNames (request : Request) (segments : List String) : List String :=
  (segments.filterMap Endpoint.parameterName?).filter fun name =>
    request.pathParameters.all (·.name != name)

/-- Whether a wiring supplies no path parameter from a body. -/
def NoPathSibling (wiring : Wiring) : Prop :=
  ∀ connection ∈ wiring.connections, connection.consumer.kind = .path →
    ∀ slot, connection.producer? ≠ some (.sibling slot)

/-! ## One segment -/

/-- A path parameter of such a wiring has a response, an entry of the dictionary or no producer. -/
theorem NoPathSibling.producerFor? (plain : NoPathSibling wiring) (request : RequestId)
    (path : AccessPath) (slot : Slot) :
    wiring.producerFor? request .path path ≠ some (.sibling slot) := by
  intro found
  obtain ⟨connection, member, _, kind, _, supplied⟩ := Wiring.connection_of_producerFor? found
  exact plain connection member kind slot supplied

/-- What the segment of a declared parameter that is a single value sends is found, whatever is in
the dictionary. -/
theorem exists_sent (plain : NoPathSibling wiring)
    (declared : request.pathParameter? name = some given) (single : given.payload = .leaf property)
    (dictionary : Dictionary) : ∃ payload after,
      segmentWith wiring request.id dictionary given = (.ok payload, after) ∧
        SendsFor wiring request ("\x7b" ++ name ++ "\x7d") payload := by
  obtain ⟨same, front, back, split, earlier⟩ := List.find?_eq_some_iff_append.mp declared
  have named : given.name = name := beq_iff_eq.mp same
  have among : ∃ given ∈ request.pathParameters, given.name = name :=
    ⟨given, List.mem_of_find?_eq_some declared, named⟩
  have first : ∀ other ∈ front, other.name ≠ name := by
    intro other member
    simpa using earlier other member
  have resolved : ∀ made, tree ⟨wiring, request.id, .path, none⟩ ⟨[name]⟩ (.leaf property) =
      .ok (.leaf made) → ∃ after,
        segmentWith wiring request.id dictionary given = (.ok made.payload, after) := by
    intro made done
    have taken : parameter ⟨wiring, request.id, .path, none⟩ given =
        .ok { given with payload := .leaf made } := by
      rw [parameter, rootOf, single, named, done]
      rfl
    rw [segmentWith, attempt, taken]
    exact ⟨_, rfl⟩
  cases supplied : wiring.producerFor? request.id .path ⟨[name]⟩ with
  | none =>
    obtain ⟨after, sent⟩ := resolved property (by rw [tree, Source.producer?, supplied])
    exact ⟨_, after, sent,
      .own name front back given property split named first single supplied⟩
  | some producer =>
    cases producer with
    | response slot =>
      obtain ⟨after, sent⟩ := resolved
        { property with payload := .dynamic ⟨slot.variableName, slot.type⟩ }
        (by rw [tree, Source.producer?, supplied]; rfl)
      exact ⟨_, after, sent, .kept name among slot supplied⟩
    | dictionary entry =>
      obtain ⟨after, sent⟩ := resolved { property with payload := .custom entry }
        (by rw [tree, Source.producer?, supplied]; rfl)
      exact ⟨_, after, sent, .stocked name among entry supplied⟩
    | sibling slot => exact absurd supplied (plain.producerFor? request.id ⟨[name]⟩ slot)

/-! ## All segments -/

/-- The segments of a path send what is sent for each of them, behind slashes, and the parameters
among them that are not declared are reported. -/
theorem segmentsWith_sends (plain : NoPathSibling wiring)
    (single : ∀ given ∈ request.pathParameters, ∃ property, given.payload = .leaf property)
    (segments : List String) (dictionary : Dictionary) :
    ∃ sent, List.Forall₂ (SendsFor wiring request) segments sent ∧
      (segmentsWith wiring request dictionary segments).parts = .ok (behindSlashes sent) ∧
      (segmentsWith wiring request dictionary segments).warnings =
        (undeclaredNames request segments).map (.undeclaredPathParameter request.id) := by
  induction segments generalizing dictionary with
  | nil => exact ⟨[], .nil, rfl, rfl⟩
  | cons segment rest ih =>
    cases read : Endpoint.parameterName? segment with
    | none =>
      obtain ⟨sent, each, parts, warnings⟩ := ih dictionary
      have literal : SendsFor wiring request segment (.text segment) := by
        refine .literal segment fun name braced => ?_
        rw [Endpoint.parameterName?_eq_some_iff.mpr braced] at read
        cases read
      refine ⟨.text segment :: sent, .cons literal each, ?_, ?_⟩
      · simp only [segmentsWith, read, parts]
        rfl
      · simp only [segmentsWith, read, warnings, undeclaredNames, List.filterMap_cons]
    | some name =>
      obtain rfl := Endpoint.parameterName?_eq_some_iff.mp read
      cases declared : request.pathParameter? name with
      | none =>
        obtain ⟨sent, each, parts, warnings⟩ := ih dictionary
        have missing : ∀ given ∈ request.pathParameters, given.name ≠ name := by
          intro given member
          simpa using List.find?_eq_none.mp declared given member
        have refused : request.pathParameters.all (·.name != name) = true := by
          rw [List.all_eq_true]
          intro given member
          exact bne_iff_ne.mpr (missing given member)
        refine ⟨.ofType .string :: sent, .cons (.undeclared name missing) each, ?_, ?_⟩
        · simp only [segmentsWith, read, declared, parts]
          rfl
        · simp only [segmentsWith, read, declared, warnings, undeclaredNames, List.filterMap_cons,
            List.filter_cons, refused, if_true, List.map_cons]
      | some given =>
        have listed := List.mem_of_find?_eq_some declared
        obtain ⟨property, leaf⟩ := single given listed
        obtain ⟨payload, middle, done, sends⟩ := exists_sent plain declared leaf dictionary
        obtain ⟨sent, each, parts, warnings⟩ := ih middle
        have accepted : request.pathParameters.all (·.name != name) = false := by
          rw [List.all_eq_false]
          exact ⟨given, listed, by simpa using List.find?_some declared⟩
        refine ⟨payload :: sent, .cons sends each, ?_, ?_⟩
        · simp only [segmentsWith, read, declared, done, parts]
          rfl
        · simp only [segmentsWith, read, declared, done, warnings, undeclaredNames,
            List.filterMap_cons, List.filter_cons, accepted, Bool.false_eq_true, if_false]

/-! ## Reading the parts back -/

/-- The text of a constant. -/
def constant? : Payload → Option String
  | .constant _ value => some value
  | _ => none

/-- The text that the part of a segment makes: the segment itself if it stands for a parameter, else
that of the constant. -/
def partText? (segment : String) (part : Payload) : Option String :=
  if (Endpoint.parameterName? segment).isSome then some segment else constant? part

/-- The text that the parts of a path make for its segments, one slash and one part for each. -/
def readBack? : List String → List Payload → Option String
  | [], [] => some ""
  | segment :: rest, slash :: part :: parts => do
    let before ← constant? slash
    let here ← partText? segment part
    let later ← readBack? rest parts
    return before ++ here ++ later
  | _, _ => none

/-- What is sent for a segment makes the segment. -/
theorem partText?_of_sendsFor (sends : SendsFor wiring request segment payload) :
    partText? segment payload = some segment := by
  cases read : Endpoint.parameterName? segment with
  | some name => rw [partText?, read, Option.isSome_some, if_pos rfl]
  | none =>
    cases sends with
    | literal => rw [partText?, read, Option.isSome_none, if_neg Bool.false_ne_true]; rfl
    | undeclared name | kept name | stocked name | own name =>
      rw [Endpoint.parameterName?_eq_some_iff.mpr rfl] at read
      cases read

/-- The parts for segments are read back as the segments, each behind a slash. -/
theorem readBack?_behindSlashes {segments : List String} {sent : List Payload}
    (each : List.Forall₂ (SendsFor wiring request) segments sent) :
    readBack? segments (behindSlashes sent) = some (joinSegments segments) := by
  induction each with
  | nil => rfl
  | @cons segment payload rest sent sends _ ih =>
    have listed : behindSlashes (payload :: sent) = .text "/" :: payload :: behindSlashes sent :=
      rfl
    rw [listed, readBack?, partText?_of_sendsFor sends, ih, joinSegments_cons]
    rfl

/-- The path of a request whose path parameters are single values always has its parts, in a wiring
that supplies no path parameter from a body. There are two for every segment of the endpoint, in the
order of the segments: a slash, and what is sent for the segment. The parameters in the endpoint
that are not declared are reported, each as often as it is there, and nothing else is. With the
segments in the places of their parameters the parts make the endpoint without empty segments. -/
theorem path_parts (wiring : Wiring) (request : Request) (dictionary : Dictionary)
    (plain : NoPathSibling wiring)
    (single : ∀ given ∈ request.pathParameters, ∃ property, given.payload = .leaf property) :
    ∃ sent, List.Forall₂ (SendsFor wiring request) (segments request.id.endpoint) sent ∧
      (path wiring request dictionary).parts = .ok (behindSlashes sent) ∧
      (path wiring request dictionary).warnings =
        (undeclaredNames request (segments request.id.endpoint)).map
          (.undeclaredPathParameter request.id) ∧
      readBack? (segments request.id.endpoint) (behindSlashes sent) =
        some (joinSegments (segments request.id.endpoint)) := by
  obtain ⟨sent, each, parts, warnings⟩ :=
    segmentsWith_sends plain single (segments request.id.endpoint) dictionary
  exact ⟨sent, each, parts, warnings, readBack?_behindSlashes each⟩

/-- A request for the items of a shop, with doubled and trailing slashes, two declared parameters
and one that is not declared and there twice. -/
def shopRequest : Request where
  id := ⟨"/shops//\x7bshopId\x7d/\x7bitemId\x7d/\x7btag\x7d/\x7btag\x7d/", .get⟩
  pathParameters := [⟨"shopId", .leaf (.plain "shopId" (.ofType .string))⟩,
    ⟨"itemId", .leaf (.plain "itemId" (.ofType .int))⟩]
  queryParameters := ⟨[], none⟩
  bodyParameters := ⟨[], none⟩
  response := none
  links := []

/-- The wiring in which the request that creates shops supplies the first parameter. -/
def shopWiring : Wiring :=
  Wiring.empty.add ⟨.plain (.ofPathParameter shopRequest.id "shopId" .string none) .path,
    some (.response ⟨⟨"/shops", .post⟩, "id", .body ⟨["id"]⟩, none, .string⟩)⟩

/-- The path of the request has five times two parts, reports the undeclared parameter twice, and is
read back without the empty segments. -/
theorem shopRequest_path_parts :
    NoPathSibling shopWiring ∧
    (∀ given ∈ shopRequest.pathParameters, ∃ property, given.payload = .leaf property) ∧
    ∃ sent, sent.length = 5 ∧
      (path shopWiring shopRequest .empty).parts = .ok (behindSlashes sent) ∧
      (path shopWiring shopRequest .empty).warnings =
        [.undeclaredPathParameter shopRequest.id "tag",
          .undeclaredPathParameter shopRequest.id "tag"] ∧
      readBack? (segments shopRequest.id.endpoint) (behindSlashes sent) =
        some "/shops/\x7bshopId\x7d/\x7bitemId\x7d/\x7btag\x7d/\x7btag\x7d" := by
  have plain : NoPathSibling shopWiring := by
    intro connection member _ slot supplied
    obtain rfl := List.mem_singleton.mp member
    cases supplied
  have single : ∀ given ∈ shopRequest.pathParameters, ∃ property,
      given.payload = .leaf property := by
    intro given member
    rcases List.mem_pair.mp member with rfl | rfl
    · exact ⟨_, rfl⟩
    · exact ⟨_, rfl⟩
  obtain ⟨sent, each, parts, warnings, text⟩ :=
    path_parts shopWiring shopRequest .empty plain single
  have counted : (segments shopRequest.id.endpoint).length = 5 := by decide +kernel
  have names : undeclaredNames shopRequest (segments shopRequest.id.endpoint) = ["tag", "tag"] := by
    decide +kernel
  have joined : joinSegments (segments shopRequest.id.endpoint) =
      "/shops/\x7bshopId\x7d/\x7bitemId\x7d/\x7btag\x7d/\x7btag\x7d" := by decide +kernel
  rw [names] at warnings
  rw [joined] at text
  exact ⟨plain, single, sent, each.length_eq.symm.trans counted, parts, warnings, text⟩

end ApiWiring.Resolution
