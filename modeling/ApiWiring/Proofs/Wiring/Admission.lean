import ApiWiring.Wiring.Inference

/-!
# When requests that read may produce as well

Requests that read produce nothing unless they are admitted. Admitting them makes three rules let
more slots through, and each of these rules then has the slots of before among more of them, in the
same order; the other rules do not look at this. A rule that takes the first of its slots may so
come to another one, but only to one of a request that does not create (`Widened`). The search goes
through names and rules in turn and stops at the first that finds anything, so it may stop earlier
than before, and never later: where it found something it still does, and what is different is a
response that was not admitted before.
-/
namespace ApiWiring

/-- Whether an answer is the same as another one, or is one of those that are new. -/
def Widened {α : Type} (isNew : α → Prop) (narrow wide : Option α) : Prop :=
  wide = narrow ∨ ∃ answer, wide = some answer ∧ isNew answer

namespace Widened

variable {α β : Type} {isNew : α → Prop} {narrow wide laterNarrow laterWide : Option α}

/-- The same answer is no new one. -/
theorem refl (isNew : α → Prop) (answer? : Option α) : Widened isNew answer? answer? := .inl rfl

/-- The first of all members is the first of those that pass a test, or it fails the test. -/
theorem head?_filter (test : α → Bool) (members : List α) :
    Widened (test · = false) (members.filter test).head? members.head? := by
  cases members with
  | nil => exact .refl _ _
  | cons first rest =>
    cases tested : test first with
    | true =>
      rw [List.filter_cons_of_pos tested]
      exact .inl rfl
    | false => exact .inr ⟨first, rfl, tested⟩

/-- What is tried later changes nothing about an earlier answer, the same or a new one. -/
theorem or (earlier : Widened isNew narrow wide) (later : Widened isNew laterNarrow laterWide) :
    Widened isNew (narrow.or laterNarrow) (wide.or laterWide) := by
  rcases earlier with rfl | ⟨answer, rfl, fresh⟩
  · cases wide with
    | some answer => exact .refl _ _
    | none => exact later
  · exact .inr ⟨answer, rfl, fresh⟩

/-- Answers can be put in another form. -/
theorem map {isNewAfter : β → Prop} {f : α → β} (widened : Widened isNew narrow wide)
    (fresh : ∀ answer, isNew answer → isNewAfter (f answer)) :
    Widened isNewAfter (narrow.map f) (wide.map f) := by
  rcases widened with rfl | ⟨answer, rfl, isFresh⟩
  · exact .refl _ _
  · exact .inr ⟨f answer, rfl, fresh answer isFresh⟩

/-- Attempts in turn stop at the same answer, or at a new one before. -/
theorem findSome? {γ : Type} {narrow wide : γ → Option α} (attempts : List γ)
    (each : ∀ attempt, Widened isNew (narrow attempt) (wide attempt)) :
    Widened isNew (attempts.findSome? narrow) (attempts.findSome? wide) := by
  induction attempts with
  | nil => exact .refl _ _
  | cons attempt rest ih =>
    have step : ∀ f : γ → Option α,
        (attempt :: rest).findSome? f = (f attempt).or (rest.findSome? f) := by
      intro f
      rw [List.findSome?_cons]
      cases f attempt <;> rfl
    rw [step, step]
    exact (each attempt).or ih

end Widened

/-- Whether a slot is in the response of a request that creates. -/
def Slot.isCreated (slot : Slot) : Bool := slot.request.method.creates

namespace Inference

variable {catalog : Catalog} {consumer : Consumer} {dictionary : Dictionary}

/-- The inference for which requests that read do not produce. -/
def withoutReading (catalog : Catalog) : Inference := ⟨catalog, false⟩

/-- The inference for which requests that read produce. -/
def withReading (catalog : Catalog) : Inference := ⟨catalog, true⟩

/-! ## What the rules let through -/

/-- The slots that may supply a consumer without reading requests are, of those that may with them,
the ones of creating requests. -/
theorem valid_withoutReading (slots : List Slot) :
    (withoutReading catalog).valid consumer slots =
      ((withReading catalog).valid consumer slots).filter Slot.isCreated := by
  rw [valid, valid, List.filter_filter]
  refine List.filter_congr fun slot _ => ?_
  simp only [withoutReading, withReading, isValidProducer, Slot.isCreated, Bool.false_or,
    Bool.true_or, Bool.true_and]

/-- That the slots were of creating requests before makes no difference. -/
theorem valid_filter_isCreated (slots : List Slot) :
    (withoutReading catalog).valid consumer (slots.filter Slot.isCreated) =
      ((withReading catalog).valid consumer slots).filter Slot.isCreated := by
  rw [valid_withoutReading, valid, valid, List.filter_filter, List.filter_filter,
    List.filter_filter]
  refine List.filter_congr fun slot _ => ?_
  rw [Bool.and_right_comm, Bool.and_self]

/-- Of the methods that produce with reading requests, those that create produce without them. -/
theorem contains_methods_withoutReading (method : Method) :
    (withoutReading catalog).methods.contains method =
      (method.creates && (withReading catalog).methods.contains method) := by
  cases method <;> rfl

/-- At the endpoint before a parameter there are, without reading requests, the slots of creating
ones. -/
theorem atEndpointBefore_withoutReading (name : String) :
    (withoutReading catalog).atEndpointBefore consumer name =
      ((withReading catalog).atEndpointBefore consumer name).filter Slot.isCreated := by
  unfold atEndpointBefore
  cases endpointBefore? consumer with
  | none => rfl
  | some endpoint =>
    have placed : catalog.atEndpoint name endpoint (withoutReading catalog).methods =
        (catalog.atEndpoint name endpoint (withReading catalog).methods).filter
          Slot.isCreated := by
      rw [Catalog.atEndpoint, Catalog.atEndpoint, List.filter_filter]
      refine List.filter_congr fun slot _ => ?_
      rw [contains_methods_withoutReading, Slot.isCreated, Bool.and_left_comm]
    exact (congrArg _ placed).trans (valid_filter_isCreated _)

/-- At similar endpoints there are, without reading requests, the slots of creating ones. -/
theorem atSimilarEndpoint_withoutReading (name : String) :
    (withoutReading catalog).atSimilarEndpoint consumer name =
      ((withReading catalog).atSimilarEndpoint consumer name).filter Slot.isCreated := by
  unfold atSimilarEndpoint
  cases endpointBefore? consumer with
  | none => rfl
  | some endpoint =>
    have placed : ((catalog.matching name).filter fun slot =>
        (withoutReading catalog).methods.contains slot.request.method &&
          Endpoint.normalized slot.request.endpoint == Endpoint.normalized endpoint) =
        ((catalog.matching name).filter fun slot =>
          (withReading catalog).methods.contains slot.request.method &&
            Endpoint.normalized slot.request.endpoint == Endpoint.normalized endpoint).filter
          Slot.isCreated := by
      rw [List.filter_filter]
      refine List.filter_congr fun slot _ => ?_
      rw [contains_methods_withoutReading, Slot.isCreated, Bool.and_assoc]
    exact (congrArg _ placed).trans (valid_filter_isCreated _)

/-- Of the type that a name speaks of there are, without reading requests, the slots of creating
ones. -/
theorem ofImpliedType_withoutReading (name : String) :
    (withoutReading catalog).ofImpliedType consumer name =
      ((withReading catalog).ofImpliedType consumer name).filter Slot.isCreated := by
  unfold ofImpliedType
  cases consumer.slot.impliedType? with
  | none => rfl
  | some type => exact valid_withoutReading _

/-- What creates a parameter's resource is the same with and without reading requests. -/
theorem created?_withReading (name : String) :
    (withReading catalog).created? consumer name =
      (withoutReading catalog).created? consumer name := by
  have same : ∀ candidate endpoint,
      (withReading catalog).valid consumer (catalog.atEndpoint candidate endpoint [.put]) =
        (withoutReading catalog).valid consumer
          (catalog.atEndpoint candidate endpoint [.put]) := by
    intro candidate endpoint
    rw [valid_withoutReading]
    refine (List.filter_eq_self.mpr fun slot member => ?_).symm
    have placed := (List.mem_filter.mp (List.mem_filter.mp member).1).2
    rw [Bool.and_eq_true, List.contains_iff_mem, List.mem_singleton] at placed
    rw [Slot.isCreated, placed.2]
    rfl
  unfold created?
  simp only [show (withReading catalog).catalog = catalog from rfl,
    show (withoutReading catalog).catalog = catalog from rfl, same]

/-- What is at the top of a creating response is the same with and without reading requests. -/
theorem ofContainer?_withReading (name : String) :
    (withReading catalog).ofContainer? consumer name =
      (withoutReading catalog).ofContainer? consumer name := by
  have same : (withReading catalog).topOfType consumer name =
      (withoutReading catalog).topOfType consumer name := by
    funext type
    unfold topOfType
    refine List.filter_congr fun slot _ => ?_
    cases creating : slot.request.method.creates with
    | false => simp only [Bool.false_and]
    | true => simp only [withReading, withoutReading, isValidProducer, creating, Bool.or_true]
  unfold ofContainer?
  rw [same]

/-! ## The search -/

/-- Whether a producer, with the dictionary after it, is a response that creates nothing, and the
dictionary is as before. -/
def IsReading (dictionary : Dictionary) (answer : Producer × Dictionary) : Prop :=
  ∃ slot, answer = (.response slot, dictionary) ∧ slot.isCreated = false

/-- For a path parameter and a name, admitting reading requests leads to the same answer or to one
of them. -/
theorem pathProducer?_widened (name : String) :
    Widened (IsReading dictionary)
      ((withoutReading catalog).pathProducer? consumer dictionary name)
      ((withReading catalog).pathProducer? consumer dictionary name) := by
  have before := Widened.head?_filter Slot.isCreated
    ((withReading catalog).atEndpointBefore consumer name)
  have similar := Widened.head?_filter Slot.isCreated
    ((withReading catalog).atSimilarEndpoint consumer name)
  rw [← atEndpointBefore_withoutReading] at before
  rw [← atSimilarEndpoint_withoutReading] at similar
  unfold pathProducer?
  rcases before with same | ⟨slot, found, reading⟩
  · rw [same]
    cases ((withoutReading catalog).atEndpointBefore consumer name).head? with
    | some slot => exact .refl _ _
    | none =>
      -- Whether a unique name is made does not depend on the requests.
      cases createsOwnResource consumer with
      | true =>
        rw [if_pos rfl, if_pos rfl]
        exact .refl _ _
      | false =>
        rw [created?_withReading]
        exact ((Widened.refl _ _).or similar).map fun slot reading => ⟨slot, rfl, reading⟩
  · rw [found]
    exact .inr ⟨_, rfl, slot, rfl, reading⟩

/-- For a query or body value and a name, admitting reading requests leads to the same answer or to
one of them. -/
theorem valueProducer?_widened (name : String) :
    Widened (·.isCreated = false) ((withoutReading catalog).valueProducer? consumer name)
      ((withReading catalog).valueProducer? consumer name) := by
  have implied := Widened.head?_filter Slot.isCreated
    ((withReading catalog).ofImpliedType consumer name)
  rw [← ofImpliedType_withoutReading] at implied
  unfold valueProducer?
  rw [ofContainer?_withReading]
  exact (Widened.refl _ _).or implied

/-- For a consumer and a name, admitting reading requests leads to the same answer or to one of
them. -/
theorem namedProducer?_widened (name : String) :
    Widened (IsReading dictionary)
      ((withoutReading catalog).namedProducer? consumer dictionary name)
      ((withReading catalog).namedProducer? consumer dictionary name) := by
  unfold namedProducer?
  cases consumer.kind with
  | path => exact pathProducer?_widened name
  | query | body =>
    exact (valueProducer?_widened name).map fun slot reading => ⟨slot, rfl, reading⟩

/-- What no link supplies is, with reading requests admitted, answered as before or by one of
them. -/
theorem inferred?_widened (ofEndpoint : Option Dictionary) :
    Widened (IsReading dictionary)
      ((withoutReading catalog).inferred? consumer dictionary ofEndpoint)
      ((withReading catalog).inferred? consumer dictionary ofEndpoint) := by
  unfold inferred?
  cases dictionaryEntry? consumer ofEndpoint dictionary with
  | some entry => exact .refl _ _
  | none => exact Widened.findSome? consumer.candidateNames namedProducer?_widened

/-- Admitting requests that read never loses a producer: a consumer that has one without them has
one with them. The answer, with the dictionary after it, is the same as without them, or it is a
response of a request that does not create, and then the dictionary stays as it is. -/
theorem find_of_admitting (catalog : Catalog) (consumer : Consumer) (dictionary : Dictionary)
    (ofEndpoint : Option Dictionary) :
    let refused := (withoutReading catalog).find consumer dictionary ofEndpoint
    let admitted := (withReading catalog).find consumer dictionary ofEndpoint
    (refused.1.isSome → admitted.1.isSome) ∧
      (admitted = refused ∨ ∃ slot : Slot, admitted = (some (.response slot), dictionary) ∧
        slot.request.method.creates = false) := by
  intro refused admitted
  have either : admitted = refused ∨ ∃ slot : Slot,
      admitted = (some (.response slot), dictionary) ∧ slot.request.method.creates = false := by
    have linked : (withReading catalog).linkedProducer? consumer =
        (withoutReading catalog).linkedProducer? consumer := rfl
    have widened : Widened (IsReading dictionary)
        ((withoutReading catalog).inferred? consumer dictionary ofEndpoint)
        ((withReading catalog).inferred? consumer dictionary ofEndpoint) :=
      inferred?_widened ofEndpoint
    simp only [refused, admitted, find, linked]
    cases (withoutReading catalog).linkedProducer? consumer with
    | some slot => exact .inl rfl
    | none =>
      rcases widened with same | ⟨_, found, slot, rfl, reading⟩
      · exact .inl (by rw [same])
      · exact .inr ⟨slot, by rw [found], reading⟩
  refine ⟨fun had => ?_, either⟩
  rcases either with same | ⟨slot, found, _⟩
  · rwa [same]
  · rw [found]
    rfl

/-- The value that names a post in the response of a request for all posts. -/
def postSlot (method : Method) : Slot :=
  ⟨⟨"/posts", method⟩, "postId", .body ⟨["postId"]⟩, none, .string⟩

/-- The parameter that names a post to be read. -/
def readPost : Consumer :=
  .plain (.ofPathParameter ⟨"/posts/{postId}", .get⟩ "postId" .string none) .path

/-- Where the request that reads all posts comes before the one that creates a post, admitting it
changes the producer of a post's name, which has one both times. -/
theorem readPost_find_of_admitting :
    let catalog : Catalog := .ofLists [postSlot .get, postSlot .post] []
    ((withoutReading catalog).find readPost .empty none).1 =
      some (.response (postSlot .post)) ∧
    ((withReading catalog).find readPost .empty none).1.isSome ∧
    ((withReading catalog).find readPost .empty none).1 = some (.response (postSlot .get)) := by
  intro catalog
  have created : ((withoutReading catalog).find readPost .empty none).1 =
      some (.response (postSlot .post)) := by decide +kernel
  have kept := (find_of_admitting catalog readPost .empty none).1 (Option.isSome_of_mem created)
  exact ⟨created, kept, by decide +kernel⟩

end Inference

end ApiWiring
