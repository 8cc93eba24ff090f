import ApiWiring.Grammar.Basic
import ApiWiring.Proofs.Dictionary.Growth
import ApiWiring.Proofs.Outcome

/-!
# How a grammar is built

The requests of a grammar are made one after the other, and each is made of its own request: the
parts of its path, then its query and body parameters, which know the path (`Sends`). Everything
that a request sends from the dictionary is registered, in the order in which it is sent, and
nothing else is. The first request of an identity keeps the values of the response.
-/
namespace ApiWiring

/-- All dictionary entries that a request sends, in the order of its path, query and body. -/
def GrammarRequest.customPayloads (sent : GrammarRequest) : List CustomPayload :=
  Payload.listCustomPayloads sent.path ++
    (sent.queryParameters ++ sent.bodyParameters).flatMap (·.payload.customPayloads)

/-- All dictionary entries that a grammar sends, in the order of its requests. -/
def Grammar.customPayloads (grammar : Grammar) : List CustomPayload :=
  grammar.requests.flatMap (·.customPayloads)

namespace Resolution

variable {wiring : Wiring} {source : Source} {before after : Dictionary}

/-- A parameter is resolved whatever is in the dictionary, which takes up what the result sends. -/
theorem parameterWith_eq (source : Source) (before : Dictionary) (given : Parameter) :
    parameterWith source before given = (parameter source given).map fun made =>
      (made, before.registerAll made.payload.customPayloads) := by
  unfold parameterWith attempt
  cases parameter source given <;> rfl

/-- A parameter resolved registers what it sends. -/
theorem parameterWith_eq_ok {given made : Parameter}
    (done : parameterWith source before given = .ok (made, after)) :
    parameter source given = .ok made ∧ after = before.registerAll made.payload.customPayloads := by
  rw [parameterWith_eq, Outcome.map_eq_ok_iff] at done
  obtain ⟨result, resolved, built⟩ := done
  cases built
  exact ⟨resolved, rfl⟩

/-- Parameters resolved in turn register what they send in turn. -/
theorem parametersWith_eq_ok {given made : List Parameter}
    (done : parametersWith source before given = .ok (made, after)) :
    List.Forall₂ (fun given made => parameter source given = .ok made) given made ∧
      after = before.registerAll (made.flatMap (·.payload.customPayloads)) := by
  induction given generalizing before made with
  | nil =>
    cases done
    exact ⟨.nil, rfl⟩
  | cons first rest ih =>
    obtain ⟨⟨head, middle⟩, here, later⟩ := Outcome.bind_eq_ok_iff.mp done
    obtain ⟨⟨tail, last⟩, there, built⟩ := Outcome.bind_eq_ok_iff.mp later
    cases built
    obtain ⟨resolved, rfl⟩ := parameterWith_eq_ok here
    obtain ⟨each, rfl⟩ := ih there
    refine ⟨.cons resolved each, ?_⟩
    rw [List.flatMap_cons, Dictionary.registerAll_append]

/-! ## The path -/

/-- A part of the path of a request: a text, the free value of a parameter that is not declared, or
what is sent for a declared one. -/
inductive IsPart (wiring : Wiring) (request : Request) : Payload → Prop where
  /-- A slash or a segment as it is written. -/
  | written (text : String) : IsPart wiring request (.text text)
  /-- A parameter that is not declared. -/
  | undeclared : IsPart wiring request (.ofType .string)
  /-- A declared parameter. -/
  | declared (given made : Parameter) (listed : given ∈ request.pathParameters)
    (resolved : parameter ⟨wiring, request.id, .path, none⟩ given = .ok made)
    (property : LeafProperty) (single : made.payload = .leaf property) :
    IsPart wiring request property.payload

/-- A leaf sends the dictionary entries of its payload. -/
theorem customPayloads_leaf (property : LeafProperty) :
    (PropertyTree.leaf property).customPayloads = property.payload.customPayloads := by
  simp [PropertyTree.customPayloads, PropertyTree.visits, PropertyNode.payload?]

/-- A segment resolved registers what it sends. -/
theorem segmentWith_eq_ok {request : RequestId} {given : Parameter} {payload : Payload}
    (done : segmentWith wiring request before given = (.ok payload, after)) :
    (∃ made property, parameter ⟨wiring, request, .path, none⟩ given = .ok made ∧
      made.payload = .leaf property ∧ property.payload = payload) ∧
        after = before.registerAll payload.customPayloads := by
  unfold segmentWith attempt at done
  cases resolved : parameter ⟨wiring, request, .path, none⟩ given with
  | error failure =>
    rw [resolved] at done
    cases done
  | ok made =>
    rw [resolved] at done
    dsimp only at done
    cases shape : made.payload with
    | leaf property =>
      rw [shape] at done
      cases done
      exact ⟨⟨made, property, rfl, shape, rfl⟩, by rw [customPayloads_leaf]⟩
    | inner property children =>
      rw [shape] at done
      cases done

/-- The parts of a path come from its segments, and registering what they send gives the dictionary
after them. -/
theorem segmentsWith_eq_ok {request : Request} {segments : List String} {parts : List Payload}
    (done : (segmentsWith wiring request before segments).parts = .ok parts) :
    (∀ part ∈ parts, IsPart wiring request part) ∧
      (segmentsWith wiring request before segments).dictionary =
        before.registerAll (Payload.listCustomPayloads parts) := by
  induction segments generalizing before parts with
  | nil =>
    cases done
    exact ⟨fun part member => absurd member List.not_mem_nil, rfl⟩
  | cons segment rest ih =>
    -- A slash goes before every segment; what the segment itself sends is what differs.
    have extend : ∀ {middle : Dictionary} {payload : Payload},
        middle = before.registerAll payload.customPayloads → IsPart wiring request payload →
          ((segmentsWith wiring request middle rest).parts.map ([.text "/", payload] ++ ·)) =
            .ok parts →
          (∀ part ∈ parts, IsPart wiring request part) ∧
            (segmentsWith wiring request middle rest).dictionary =
              before.registerAll (Payload.listCustomPayloads parts) := by
      intro middle payload registered isPart mapped
      obtain ⟨others, later, rfl⟩ := Outcome.map_eq_ok_iff.mp mapped
      obtain ⟨each, grown⟩ := ih later
      constructor
      · intro part member
        rcases List.mem_append.mp member with front | back
        · rcases List.mem_pair.mp front with rfl | rfl
          · exact .written "/"
          · exact isPart
        · exact each part back
      · rw [grown, registered, ← Dictionary.registerAll_append]
        simp [Payload.listCustomPayloads, Payload.customPayloads, Payload.text]
    unfold segmentsWith at done ⊢
    split at done
    · exact extend rfl (.written segment) done
    · split at done
      · exact extend rfl .undeclared done
      · rename_i given found
        split at done
        · cases done
        · rename_i payload middle resolved
          obtain ⟨⟨made, property, taken, single, rfl⟩, registered⟩ := segmentWith_eq_ok resolved
          have listed := List.mem_of_find?_eq_some found
          exact extend registered (.declared given made listed taken property single) done

end Resolution

namespace Grammar

open Resolution

variable {wiring : Wiring} {options : Options}

/-- How a request of a grammar is made of the request declared. -/
structure Sends (wiring : Wiring) (options : Options) (request : Request)
    (sent : GrammarRequest) : Prop where
  /-- It has the identity declared. -/
  id : sent.id = request.id
  /-- Its path is made of the segments of the endpoint. -/
  path : ∃ before, (Resolution.path wiring request before).parts = .ok sent.path
  /-- Its query parameters are resolved where the path is known. -/
  query : List.Forall₂
    (fun given made => parameter ⟨wiring, sent.id, .query, some sent.path⟩ given = .ok made)
    (request.queryParameters.select options.allDeclared) sent.queryParameters
  /-- Its body parameters are resolved where the path is known. -/
  body : List.Forall₂
    (fun given made => parameter ⟨wiring, sent.id, .body, some sent.path⟩ given = .ok made)
    (request.bodyParameters.select options.allDeclared) sent.bodyParameters

/-- A grammar has the identities declared, in their order. -/
theorem ids_eq_of_sends {requests : List Request} {made : List GrammarRequest}
    (each : List.Forall₂ (Sends wiring options) requests made) :
    made.map (·.id) = requests.map (·.id) := by
  induction each with
  | nil => rfl
  | cons first _ ih => rw [List.map_cons, List.map_cons, first.id, ih]

/-- Whether of the requests of each identity the first keeps what the response supplies and the
others keep nothing. -/
def FirstKeeps (wiring : Wiring) (requests : List GrammarRequest) : Prop :=
  ∀ front sent back, requests = front ++ sent :: back → sent.captures =
    if front.any (·.id == sent.id) then [] else captures wiring sent.id

/-- What taking up one request does. -/
theorem takeUp_eq_ok {progress next : Progress} {request : Request}
    (done : takeUp wiring options progress request = .ok next) :
    ∃ sent, next.done = sent :: progress.done ∧ Sends wiring options request sent ∧
      next.dictionary = progress.dictionary.registerAll sent.customPayloads ∧
        sent.captures =
          if progress.done.any (·.id == sent.id) then [] else captures wiring sent.id := by
  obtain ⟨parts, path, afterPath⟩ := Outcome.bind_eq_ok_iff.mp done
  obtain ⟨⟨query, middle⟩, queried, afterQuery⟩ := Outcome.bind_eq_ok_iff.mp afterPath
  obtain ⟨⟨body, last⟩, bodied, built⟩ := Outcome.bind_eq_ok_iff.mp afterQuery
  cases built
  obtain ⟨queries, rfl⟩ := parametersWith_eq_ok queried
  obtain ⟨bodies, rfl⟩ := parametersWith_eq_ok bodied
  refine ⟨_, rfl, ⟨rfl, ⟨_, path⟩, queries, bodies⟩, ?_, rfl⟩
  have registered : (Resolution.path wiring request progress.dictionary).dictionary =
      progress.dictionary.registerAll (Payload.listCustomPayloads parts) :=
    (segmentsWith_eq_ok path).2
  rw [registered, GrammarRequest.customPayloads, List.flatMap_append, Dictionary.registerAll_append,
    Dictionary.registerAll_append]

/-- What taking up requests in turn does. -/
theorem foldlM_takeUp_eq_ok {requests : List Request} {start final : Progress}
    (done : requests.foldlM (takeUp wiring options) start = .ok final) :
    ∃ added, final.done = added.reverse ++ start.done ∧
      List.Forall₂ (Sends wiring options) requests added ∧
        final.dictionary = start.dictionary.registerAll (added.flatMap (·.customPayloads)) ∧
          ∀ front sent back, added = front ++ sent :: back → sent.captures =
            if front.any (·.id == sent.id) || start.done.any (·.id == sent.id) then []
            else captures wiring sent.id := by
  induction requests generalizing start with
  | nil =>
    cases done
    exact ⟨[], rfl, .nil, rfl, fun front sent back split => by simp at split⟩
  | cons request rest ih =>
    rw [List.foldlM_cons] at done
    obtain ⟨next, stepped, rested⟩ := Outcome.bind_eq_ok_iff.mp done
    obtain ⟨first, listed, sends, registered, kept⟩ := takeUp_eq_ok stepped
    obtain ⟨others, finished, each, grown, keeps⟩ := ih rested
    refine ⟨first :: others, ?_, .cons sends each, ?_, ?_⟩
    · rw [finished, listed, List.reverse_cons, List.append_assoc]
      rfl
    · rw [grown, registered, List.flatMap_cons, Dictionary.registerAll_append]
    · intro front sent back split
      cases front with
      | nil =>
        obtain ⟨rfl, rfl⟩ := List.cons.inj split
        rw [kept]
        rfl
      | cons head tail =>
        obtain ⟨rfl, later⟩ := List.cons.inj split
        rw [keeps tail sent back later, listed, List.any_cons, List.any_cons]
        simp only [Bool.or_assoc, Bool.or_left_comm]

/-- A grammar is made request by request, registers what it sends and keeps the values of a response
at the first request of its identity. -/
theorem build_eq_ok {requests : List Request} {wired : Wired} {grammar : Grammar}
    {dictionary : Dictionary} {warnings : List Warning}
    (done : build requests options wired = .ok (grammar, dictionary, warnings)) :
    List.Forall₂ (Sends wired.wiring options) requests grammar.requests ∧
      dictionary = wired.dictionary.registerAll grammar.customPayloads ∧
        FirstKeeps wired.wiring grammar.requests := by
  obtain ⟨final, folded, built⟩ := Outcome.bind_eq_ok_iff.mp done
  cases built
  obtain ⟨added, finished, each, grown, keeps⟩ := foldlM_takeUp_eq_ok folded
  have made : final.done.reverse = added := by
    rw [finished, List.append_nil, List.reverse_reverse]
  rw [made]
  refine ⟨each, ?_, fun front sent back split => ?_⟩
  · rw [grown]
    rfl
  · rw [keeps front sent back split, List.any_nil, Bool.or_false]

/-- Where the identities are distinct, every request keeps what its response supplies. -/
theorem captures_eq_of_nodup {requests : List GrammarRequest} (keeps : FirstKeeps wiring requests)
    (distinct : (requests.map (·.id)).Nodup) {sent : GrammarRequest} (member : sent ∈ requests) :
    sent.captures = captures wiring sent.id := by
  obtain ⟨front, back, split⟩ := List.append_of_mem member
  have absent : front.any (·.id == sent.id) = false := by
    rw [List.any_eq_false]
    intro other earlier same
    rw [split, List.map_append, List.nodup_append] at distinct
    have apart := distinct.2.2 other.id (List.mem_map_of_mem earlier) sent.id (by simp)
    exact apart (beq_iff_eq.mp same)
  rw [keeps front sent back split, absent]
  rfl

/-- Of the requests of an identity one keeps what the response supplies. -/
theorem exists_keeper {requests : List GrammarRequest} (keeps : FirstKeeps wiring requests)
    {sent : GrammarRequest} (member : sent ∈ requests) :
    ∃ keeper ∈ requests, keeper.id = sent.id ∧ keeper.captures = captures wiring sent.id := by
  have present : (requests.find? (·.id == sent.id)).isSome := by
    rw [List.find?_isSome]
    exact ⟨sent, member, beq_self_eq_true sent.id⟩
  obtain ⟨keeper, found⟩ := Option.isSome_iff_exists.mp present
  obtain ⟨same, front, back, split, earlier⟩ := List.find?_eq_some_iff_append.mp found
  have owner : keeper.id = sent.id := beq_iff_eq.mp same
  have absent : front.any (·.id == keeper.id) = false := by
    rw [List.any_eq_false, owner]
    intro other inFront
    simpa using earlier other inFront
  refine ⟨keeper, List.mem_of_find?_eq_some found, owner, ?_⟩
  rw [keeps front keeper back split, absent, owner]
  rfl

end Grammar

end ApiWiring
