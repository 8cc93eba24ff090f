import ApiWiring.Proofs.Report.Manifest
import ApiWiring.Proofs.Representatives
import ApiWiring.Proofs.Text.Segments
import ApiWiring.Wiring.Requested

/-!
# Lines copied into records

A line of the manifest is spelled like a record of a link. If the components of the paths can be
read as segments, the record made of a line is a link from the producer to the consumer that speaks
of the same two slots: what the line names is read as a name, what it locates as the same path.
-/
namespace ApiWiring

/-- Whether a path can be read from its pointer: every component is a segment. -/
def AccessPath.IsReadable (path : AccessPath) : Prop :=
  ∀ component ∈ path.parts, Text.IsSegment component

/-- Reading the pointer of a readable path gives the path. -/
theorem AccessPath.ofPointer_pointer {path : AccessPath} (readable : path.IsReadable) :
    ofPointer path.pointer = path := by
  rw [ofPointer, pointer, Text.segments_joinSegments readable]

/-- Whether the path of a slot ends in its name. -/
def Slot.IsNamed (slot : Slot) : Prop := slot.accessPath.parts.getLast? = some slot.name

/-- The name in which a readable path ends is a segment. -/
theorem Slot.IsNamed.isSegment {slot : Slot} (named : slot.IsNamed)
    (readable : slot.accessPath.IsReadable) : Text.IsSegment slot.name :=
  readable slot.name (List.mem_of_getLast? named)

/-- A path that ends in a name is not that of the root. -/
theorem Slot.IsNamed.parts_ne_nil {slot : Slot} (named : slot.IsNamed) :
    slot.accessPath.parts ≠ [] := by
  intro root
  rw [IsNamed, root] at named
  cases named

/-- A path of one component that ends in a name is this name. -/
theorem Slot.IsNamed.accessPath_eq {slot : Slot} (named : slot.IsNamed)
    (short : slot.accessPath.length ≤ 1) : slot.accessPath = ⟨[slot.name]⟩ := by
  rw [IsNamed] at named
  generalize slot.accessPath = path at named short ⊢
  match path with
  | ⟨[]⟩ => cases named
  | ⟨[component]⟩ =>
    cases named
    rfl
  | ⟨_ :: _ :: _⟩ => simp [AccessPath.length] at short

namespace LinkParameter

/-- A segment is read as a name. -/
theorem parse_of_isSegment {text : String} (segment : Text.IsSegment text) :
    parse text = .named text := by
  rw [parse, if_neg]
  intro slash
  exact segment.2 (List.mem_of_head? slash)

/-- The pointer of a readable path other than the root's is read as the path. -/
theorem parse_pointer {path : AccessPath} (readable : path.IsReadable) (below : path.parts ≠ []) :
    parse path.pointer = .located path := by
  have slash : path.pointer.toList.head? = some '/' := by
    rw [AccessPath.pointer, Text.toList_joinSegments]
    cases parts : path.parts with
    | nil => exact absurd parts below
    | cons first rest => rfl
  rw [parse, if_pos slash, AccessPath.ofPointer_pointer readable]

/-- Whether a parameter names a slot or locates it. -/
def SpeaksOf (parameter : LinkParameter) (slot : Slot) : Prop :=
  parameter = .named slot.name ∨ parameter = .located slot.accessPath

end LinkParameter

namespace ManifestEntry

open LinkParameter

variable {consumer producer : Slot} {owner : RequestId}

/-- The record that an entry is copied into. -/
def toRecord (entry : ManifestEntry) : LinkRecord where
  producerEndpoint := entry.producerEndpoint
  producerMethod := entry.producerMethod
  producerResourceName := entry.producerResourceName
  consumerEndpoint := none
  consumerMethod := none
  consumerParam := some entry.consumerParam
  except := none

/-- The text of a consumer is read as one that speaks of it. -/
theorem parse_consumerText (named : consumer.IsNamed) (readable : consumer.accessPath.IsReadable) :
    (parse (consumerText consumer)).SpeaksOf consumer := by
  have byName := parse_of_isSegment (named.isSegment readable)
  have byPath := parse_pointer readable named.parts_ne_nil
  unfold consumerText
  split
  · exact .inl byName
  · rename_i path site
    have located : consumer.accessPath = path := by rw [Slot.accessPath, site]
    split
    · exact .inl byName
    · rw [← located]
      exact .inr byPath
  · rename_i path site
    have located : consumer.accessPath = path := by rw [Slot.accessPath, site]
    rw [← located]
    exact .inr byPath

/-- The text of a producer is not empty, and it is read as its name if it is at the top and as its
path otherwise. -/
theorem parse_producerText (named : producer.IsNamed)
    (readable : producer.accessPath.IsReadable) :
    producerText producer ≠ "" ∧ parse (producerText producer) =
      if 1 < producer.accessPath.length then .located producer.accessPath
      else .named producer.name := by
  unfold producerText
  split
  · have located := parse_pointer readable named.parts_ne_nil
    refine ⟨fun empty => ?_, located⟩
    rw [empty] at located
    cases located
  · have segment := named.isSegment readable
    refine ⟨fun empty => segment.1 ?_, parse_of_isSegment segment⟩
    rw [empty]
    rfl

/-- The text of a method is not empty and names the method. -/
theorem method_label (method : Method) :
    label method ≠ "" ∧ Link.method (label method) = .ok method := by
  cases method <;> decide

/-- The entry of a consumer supplied by a slot is copied into a record that is a link from the slot
to the consumer. -/
theorem ofRecord_toRecord {kind : ProducerKind} (addressed : producer.request.endpoint ≠ "")
    (named : producer.IsNamed) (readable : producer.accessPath.IsReadable) :
    Link.ofRecord (ofSlot (consumerText consumer) producer kind).toRecord (some owner) =
      .ok ⟨producer.request, parse (producerText producer), some owner,
        parse (consumerText consumer), []⟩ := by
  have present := (parse_producerText named readable).1
  obtain ⟨worded, read⟩ := method_label producer.request.method
  simp only [Link.ofRecord, ofSlot, toRecord, Link.required, if_neg addressed, if_neg worded,
    if_neg present, bind, Except.bind, read]
  rfl

end ManifestEntry

namespace Link

variable {link : Link} {slot : Slot}

/-- A link to the request of a slot that speaks of the slot, is produced by another request and has
no exceptions applies to the slot. -/
theorem appliesTo_of_speaksOf (foreign : link.producer ≠ slot.request)
    (owned : link.consumer = some slot.request) (general : link.except = [])
    (spoken : link.consumerParameter.SpeaksOf slot) : link.appliesTo slot = true := by
  have allowed : link.excepts slot.request = false := by rw [excepts, general]; rfl
  have tests : (link.producer != slot.request && !link.excepts slot.request &&
      link.consumer.all (· == slot.request)) = true := by
    rw [allowed, owned]
    simpa using foreign
  rw [appliesTo, tests, Bool.true_and]
  rcases spoken with byName | byPath
  · rw [byName]
    exact beq_self_eq_true _
  · rw [byPath]
    exact beq_self_eq_true _

/-- A link that applies to a slot and is the only one at its request counts, whichever links hold
everywhere. -/
theorem find?_of_appliesTo (applies : link.appliesTo slot = true) (everywhere : List Link) :
    (find? [link] everywhere slot).1 = some link := by
  have kept : (link :: everywhere).filter (·.appliesTo slot) =
      link :: everywhere.filter (·.appliesTo slot) :=
    List.filter_cons_of_pos applies
  rw [find?, applying, Representatives.head?_eraseDupsBy, List.singleton_append, kept,
    List.head?_cons]

end Link

end ApiWiring
