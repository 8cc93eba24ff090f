import ApiWiring.Proofs.Compilation.Course
import ApiWiring.Proofs.Report.Copying
import ApiWiring.Proofs.Wiring.Keys
import ApiWiring.Proofs.Wiring.Responses

/-!
# Copying a line of the manifest

A consumer supplied by a response can be pinned to its producer: its line in the manifest is copied
into a record written at its own request. The record is a link that applies to the consumer before
all links that hold everywhere, and of all slots surveyed the link names the producer that the line
was written for, also where the response has the name at several places or the same place twice.
-/
namespace ApiWiring

/-- The path of a value that a request needs ends in its name. -/
theorem Request.Needs.named {request : Request} {options : Options} {key : ConsumerKey}
    (needed : request.Needs options key) : key.path.parts.getLast? = some key.name := by
  cases needed with
  | path parameter declared => rfl
  | query enabled parameter selected path node visited name named => exact named.1
  | body enabled parameter selected path node visited name named => exact named.1

namespace Passes

open Slot

variable {setting : Setting} {surveys : List Survey} {result : Result} {slot found : Slot}
  {link : Link}

/-- The path of every consumer of the finished wiring ends in its name. -/
theorem isNamed_of_run (ran : run setting = .ok result) {connection : Connection}
    (member : connection ∈ result.wired.wiring.connections) :
    connection.consumer.slot.IsNamed := by
  obtain ⟨surveys, early, surveyed, _, _, _, known, _⟩ := keys_of_run ran
  have listed := (known connection.consumer.key).mp (List.mem_map_of_mem member)
  obtain ⟨request, _, needed⟩ := (exists_consumer_iff surveyed).mp listed
  exact needed.named

/-- The path of a response surveyed ends in its name. -/
theorem isNamed_of_mem_responses (surveyed : Passes.surveys setting = .ok surveys)
    (member : slot ∈ responses surveys) : slot.IsNamed := by
  obtain ⟨_, _, _, _, path, named, site⟩ := inBody_of_mem_responses surveyed member
  rw [IsNamed, accessPath, site]
  exact (AccessPath.resourceName?_eq_some_iff.mp named).1

/-- The slots of a name and a request among the responses surveyed. -/
def homonyms (surveys : List Survey) (slot : Slot) : List Slot :=
  ((responses surveys).filter (·.name == slot.name)).filter (·.request == slot.request)

/-- A slot is a homonym of another one when it is a response of its name and its request. -/
theorem mem_homonyms : found ∈ homonyms surveys slot ↔
    found ∈ responses surveys ∧ found.name = slot.name ∧ found.request = slot.request := by
  simp only [homonyms, List.mem_filter, beq_iff_eq, and_assoc]

/-- Of the homonyms of a slot that is the first response surveyed for its value, a first one for its
value that is at the path of the slot is the slot. -/
theorem eq_of_isFirst_homonyms (surveyed : Passes.surveys setting = .ok surveys)
    (first : IsFirst (responses surveys) slot) (among : IsFirst (homonyms surveys slot) found)
    (located : found.accessPath = slot.accessPath) : found = slot := by
  have foundFirst : IsFirst (responses surveys) found :=
    (among.of_filter fun _ => rfl).of_filter fun _ => rfl
  exact eq_of_isFirst surveyed foundFirst first (mem_homonyms.mp among.mem).2.2 located

/-- The first homonym at the path of a slot is the slot, if it is the first response surveyed for
its value. -/
theorem find?_homonyms (surveyed : Passes.surveys setting = .ok surveys)
    (first : IsFirst (responses surveys) slot) :
    (homonyms surveys slot).find? (·.accessPath == slot.accessPath) = some slot := by
  have itself : slot ∈ homonyms surveys slot := mem_homonyms.mpr ⟨first.mem, rfl, rfl⟩
  have there : ((homonyms surveys slot).find? (·.accessPath == slot.accessPath)).isSome :=
    List.find?_isSome.mpr ⟨slot, itself, beq_self_eq_true _⟩
  obtain ⟨found, sought⟩ := Option.isSome_iff_exists.mp there
  have matching := List.find?_some sought
  rw [sought, eq_of_isFirst_homonyms surveyed first (isFirst_of_find? (fun _ => rfl) sought)
    (beq_iff_eq.mp matching)]

/-- The first homonym nearest to the root is the slot, if the slot is at the top and is the first
response surveyed for its value. -/
theorem minOn?_homonyms (surveyed : Passes.surveys setting = .ok surveys)
    (first : IsFirst (responses surveys) slot) (top : slot.accessPath.length ≤ 1) :
    (homonyms surveys slot).minOn? (·.accessPath.length) = some slot := by
  have itself : slot ∈ homonyms surveys slot := mem_homonyms.mpr ⟨first.mem, rfl, rfl⟩
  obtain ⟨found, sought⟩ :=
    Option.isSome_iff_exists.mp (List.isSome_minOn?_of_mem (f := (·.accessPath.length)) itself)
  have least : found.accessPath.length ≤ slot.accessPath.length := by
    have bound := List.apply_get_minOn?_le_of_mem (f := (·.accessPath.length)) itself
    simpa only [sought, Option.get_some] using bound
  obtain ⟨listed, sameName, _⟩ := mem_homonyms.mp (List.minOn?_mem sought)
  -- Both paths have one component, which is the name they share.
  have located : found.accessPath = slot.accessPath := by
    rw [(isNamed_of_mem_responses surveyed listed).accessPath_eq (Nat.le_trans least top), sameName,
      (isNamed_of_mem_responses surveyed first.mem).accessPath_eq top]
  rw [sought, eq_of_isFirst_homonyms surveyed first (isFirst_of_minOn? (fun _ => rfl) sought)
    located]

/-- A link to the first response surveyed for a value, by its name if it is at the top and by its
path otherwise, names this response. -/
theorem producerSlot?_of_isFirst (surveyed : Passes.surveys setting = .ok surveys)
    (first : IsFirst (responses surveys) slot) (owner : link.producer = slot.request)
    (spoken : link.producerParameter =
      if 1 < slot.accessPath.length then .located slot.accessPath else .named slot.name) :
    link.producerSlot? (inference setting surveys).catalog = some slot := by
  obtain ⟨_, _, _, _, path, named, site⟩ := inBody_of_mem_responses surveyed first.mem
  have pathNamed : slot.accessPath.resourceName? = some slot.name := by
    rw [accessPath, site]
    exact named
  have candidates : ((inference setting surveys).catalog.named slot.name).filter
      (·.request == link.producer) = homonyms surveys slot := by
    rw [named_inference, owner]
    rfl
  rw [Link.producerSlot?, spoken]
  split
  · simp only [LinkParameter.resourceName?, pathNamed, Option.bind_eq_bind, Option.bind_some,
      candidates]
    exact find?_homonyms surveyed first
  · rename_i top
    simp only [LinkParameter.resourceName?, Option.bind_eq_bind, Option.bind_some, candidates]
    exact minOn?_homonyms surveyed first (Nat.le_of_not_lt top)

end Passes

namespace Compilation

open Manifest

variable {input : Input} {output : Output}

/-- Whether the line of a connection, copied into a record written at the request of its consumer,
is a link that counts for the consumer, whichever links hold everywhere, and that names a slot. -/
def CopiesTo (inference : Inference) (connection : Connection) (slot : Slot) : Prop :=
  ∃ link, Link.ofRecord (Line.ofConnection connection).entry.toRecord
      (some connection.consumer.slot.request) = .ok link ∧
    (∀ everywhere, (Link.find? [link] everywhere connection.consumer.slot).1 = some link) ∧
      link.producerSlot? inference.catalog = some slot

/-- If a compilation succeeds, every consumer supplied by a response slot has its line in the
manifest; and if the endpoint of the slot is not empty and both paths can be read from their
pointers, the copied line is a link from the slot to the consumer. -/
theorem line_can_be_copied (done : compile input = .ok output) :
    ∃ surveys result, Passes.surveys (setting input) = .ok surveys ∧
      Passes.run (setting input) = .ok result ∧
        ∀ connection ∈ result.wired.wiring.connections, ∀ slot,
          connection.producer? = some (.response slot) →
            Line.ofConnection connection ∈ output.manifest.lines ∧
            (slot.request.endpoint ≠ "" → connection.consumer.slot.accessPath.IsReadable →
              slot.accessPath.IsReadable →
                CopiesTo (Passes.inference (setting input) surveys) connection slot) := by
  obtain ⟨result, _, ran, _⟩ := compile_eq_ok done
  obtain ⟨surveys, surveyed, chosen⟩ := Passes.chosen_of_run ran
  refine ⟨surveys, result, surveyed, ran, fun connection member slot supplied => ⟨?_, ?_⟩⟩
  · rw [(reports_of_compile done ran).1]
    exact (lists_ofWiring _).complete.mem_iff.mpr (List.mem_map_of_mem member)
  · intro addressed readable producerReadable
    have picked := chosen connection member slot supplied
    have first := Passes.isFirst_of_chosen picked
    have named := Passes.isNamed_of_run ran member
    have producerNamed := Passes.isNamed_of_mem_responses surveyed first.mem
    have entry : (Line.ofConnection connection).entry =
        .ofSlot (ManifestEntry.consumerText connection.consumer.slot) slot .response := by
      rw [Line.ofConnection, ManifestEntry.ofConnection, supplied]
    refine ⟨⟨slot.request, .parse (ManifestEntry.producerText slot),
      some connection.consumer.slot.request,
      .parse (ManifestEntry.consumerText connection.consumer.slot), []⟩, ?_, ?_, ?_⟩
    · rw [entry]
      exact ManifestEntry.ofRecord_toRecord addressed producerNamed producerReadable
    · exact Link.find?_of_appliesTo (Link.appliesTo_of_speaksOf picked.foreign rfl rfl
        (ManifestEntry.parse_consumerText named readable))
    · exact Passes.producerSlot?_of_isFirst surveyed first rfl
        (ManifestEntry.parse_producerText producerNamed producerReadable).2

/-! ## One name at several places -/

/-- The request of `homonymInput` that answers with identities. -/
def answeringRequest : RequestId := ⟨"/t", .post⟩

/-- The request of `homonymInput` that needs identities. -/
def askingRequest : RequestId := ⟨"/t/\x7bid\x7d", .get⟩

/-- A response that has an identity inside another resource and, behind it, two at the top; one
request needs an identity in its path and one in its query. -/
def homonymInput : Input where
  requests := [
    { id := answeringRequest
      pathParameters := []
      queryParameters := .empty
      bodyParameters := .empty
      response := some (.inner ⟨"", none, .object, true, false⟩
        [.inner ⟨"u", none, .object, true, false⟩ [.leaf (.plain "id" (.ofType .string))],
          .leaf (.plain "id" (.ofType .int)), .leaf (.plain "id" (.ofType .string))])
      links := [] },
    { id := askingRequest
      pathParameters := [⟨"id", .leaf (.plain "id" (.ofType .string))⟩]
      queryParameters := ⟨[⟨"t_id", .leaf (.plain "t_id" (.ofType .string))⟩], none⟩
      bodyParameters := .empty
      response := none
      links := [] }]
  records := []
  dictionary := .empty
  ofEndpoint := .empty
  options := .standard

/-- An identity in the response of `homonymInput`. -/
def answered (path : List String) (type : PrimitiveType) : Slot :=
  ⟨answeringRequest, "id", .body ⟨path⟩, none, type⟩

/-- The identity in the path of `homonymInput`, supplied from inside the other resource. -/
def innerConnection : Connection :=
  ⟨.plain ⟨askingRequest, "id", .path ["t"], none, .string⟩ .path,
    some (.response (answered ["u", "id"] .string))⟩

/-- The identity in the query of `homonymInput`, supplied from the top. -/
def topConnection : Connection :=
  ⟨.plain ⟨askingRequest, "t_id", .query ⟨["t_id"]⟩, none, .string⟩ .query,
    some (.response (answered ["id"] .int))⟩

/-- In `homonymInput` both lines can be copied: the one locates the inner identity, and of the two
at the top the other one names the first. -/
theorem homonymInput_line_can_be_copied :
    ∃ output surveys, compile homonymInput = .ok output ∧
      Passes.surveys (setting homonymInput) = .ok surveys ∧
        Line.ofConnection innerConnection ∈ output.manifest.lines ∧
        CopiesTo (Passes.inference (setting homonymInput) surveys) innerConnection
          (answered ["u", "id"] .string) ∧
        Line.ofConnection topConnection ∈ output.manifest.lines ∧
        CopiesTo (Passes.inference (setting homonymInput) surveys) topConnection
          (answered ["id"] .int) := by
  have computed : ∃ output result, compile homonymInput = .ok output ∧
      Passes.run (setting homonymInput) = .ok result ∧
        result.wired.wiring.connections = [innerConnection, topConnection] :=
    compile_of_computed (fun result _ => result.wired.wiring.connections) (by decide +kernel)
      (by decide)
  obtain ⟨output, result, compiled, ran, connected⟩ := computed
  obtain ⟨surveys, other, surveyed, same, copied⟩ := line_can_be_copied compiled
  obtain rfl : result = other := Except.ok.inj (ran.symm.trans same)
  rw [connected] at copied
  have inner := copied innerConnection (.head _) _ rfl
  have top := copied topConnection (.tail _ (.head _)) _ rfl
  have readable : ∀ path ∈ [["id"], ["t_id"], ["u", "id"]],
      (AccessPath.mk path).IsReadable := by
    simp only [AccessPath.IsReadable, Text.IsSegment]
    decide
  exact ⟨output, surveys, compiled, surveyed,
    inner.1, inner.2 (by decide) (readable _ (by decide)) (readable _ (by decide)),
    top.1, top.2 (by decide) (readable _ (by decide)) (readable _ (by decide))⟩

end Compilation

end ApiWiring
