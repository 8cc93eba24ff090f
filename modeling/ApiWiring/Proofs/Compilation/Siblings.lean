import ApiWiring.Proofs.Compilation.Course
import ApiWiring.Proofs.Wiring.Siblings

/-!
# Addresses of siblings

A value that a `name` property of the same body supplies is sent as an address: the path of the
request, the container of the property and its unique name. The property itself is sent as the
unique name in the spelling of the dictionary, the address makes the name anew. So the two name one
entry exactly when the dictionary spells the unique name as the address does.
-/
namespace ApiWiring.Compilation

open Text

variable {input : Input} {output : Output}

/-- Where the body of a request of a grammar takes its values from. -/
def bodySource (wiring : Wiring) (sent : GrammarRequest) : Resolution.Source :=
  ⟨wiring, sent.id, .body, some sent.path⟩

/-- The address below a path of the resource with a container and a unique name. -/
def address (path : List Payload) (container : String) (entry : CustomPayload) : Payload :=
  .parts (path ++ [.text ("/" ++ container ++ "/"), .custom entry])

/-- What a body sends for a sibling. -/
theorem payload_sibling (wiring : Wiring) (sent : GrammarRequest) (path : AccessPath)
    (slot : Slot) :
    (bodySource wiring sent).payload path (.sibling slot) =
      .ok (Resolution.siblingPayload slot sent.path) :=
  rfl

/-- A respelled unique name is the one made anew exactly when it is a key of the dictionary that
respelled it. -/
theorem respelled_eq_iff {dictionary : Dictionary} {entry : CustomPayload} {stored : String}
    (found : dictionary.key? entry.section_ entry.name = some stored) :
    { entry with name := stored } = entry ↔ entry.name ∈ dictionary.keys entry.section_ := by
  have member := (Dictionary.mem_keys_of_key? found).1
  constructor
  · intro same
    have name : stored = entry.name := congrArg CustomPayload.name same
    rwa [name] at member
  · intro present
    have sought : entry.section_ ≠ .header := by
      intro header
      rw [header] at found
      cases found
    rw [Dictionary.key?_of_mem sought present, Option.some.injEq] at found
    rw [← found]

/-- If a compilation succeeds, every value supplied from its own body is supplied by a property of
that body whose own producer is a unique name, a key of the finished dictionary. The value is sent
as the address made of the path of its request, the property's container and the unique name made
anew; and this is the name of the property's own producer exactly when the finished dictionary has
it for a key, spelled like this. -/
theorem sibling_address (done : compile input = .ok output) :
    ∃ result, Passes.run (setting input) = .ok result ∧
      ∀ connection ∈ result.wired.wiring.connections, ∀ slot,
        connection.producer? = some (.sibling slot) →
          ∃ container entry, slot.containerName? = some container ∧
            slot.request = connection.consumer.slot.request ∧
            result.wired.wiring.producerAt? (Consumer.plain slot .body).key =
              some (.dictionary entry) ∧
            entry.section_ = .uuidSuffix ∧ entry.name ∈ output.dictionary.keys .uuidSuffix ∧
            EqualIgnoringCase entry.name (container ++ "_" ++ slot.name) ∧
            (∀ sent ∈ output.grammar.requests, sent.id = slot.request →
              ∃ request ∈ input.requests, request.id = sent.id ∧
                List.Forall₂
                  (fun given made => Resolution.parameter
                    (bodySource result.wired.wiring sent) given = .ok made)
                  (request.bodyParameters.select input.options.allDeclared)
                  sent.bodyParameters ∧
                (bodySource result.wired.wiring sent).payload connection.consumer.slot.accessPath
                    (.sibling slot) =
                  .ok (address sent.path container (Passes.siblingEntry container slot))) ∧
            (entry = Passes.siblingEntry container slot ↔
              container ++ "_" ++ slot.name ∈ output.dictionary.keys .uuidSuffix) := by
  obtain ⟨result, warnings, ran, built⟩ := compile_eq_ok done
  obtain ⟨each, _, _⟩ := Grammar.build_eq_ok built
  refine ⟨result, ran, fun connection member slot supplied => ?_⟩
  obtain ⟨_, owner, container, stored, named, found, producer⟩ :=
    Passes.sibling_of_run ran member supplied
  have kept := (extends_of_build built).key? found
  obtain ⟨present, same⟩ := Dictionary.mem_keys_of_key? kept
  refine ⟨container, { Passes.siblingEntry container slot with name := stored }, named, owner,
    producer, rfl, present, same, fun sent listed identity => ?_, respelled_eq_iff kept⟩
  obtain ⟨request, asked, sends⟩ := Outcome.exists_member_of_forall₂ each listed
  refine ⟨request, asked, sends.id.symm, sends.body, ?_⟩
  rw [payload_sibling, Resolution.siblingPayload, named]
  rfl

/-! ## A dictionary with another spelling -/

/-- Whether every value supplied from its own body is sent as the address with the entry that the
property supplying it is sent as. -/
def AddressesByEntry (input : Input) : Prop :=
  ∀ output, compile input = .ok output → ∀ result, Passes.run (setting input) = .ok result →
    ∀ connection ∈ result.wired.wiring.connections, ∀ slot,
      connection.producer? = some (.sibling slot) →
        ∃ container entry, slot.containerName? = some container ∧
          result.wired.wiring.producerAt? (Consumer.plain slot .body).key =
            some (.dictionary entry) ∧
          ∀ sent ∈ output.grammar.requests, sent.id = slot.request →
            (bodySource result.wired.wiring sent).payload connection.consumer.slot.accessPath
              (.sibling slot) = .ok (address sent.path container entry)

/-- The name of the outer resource of `spelledInput`. -/
def nameSlot : Slot := ⟨⟨"/t", .post⟩, "name", .body ⟨["t", "name"]⟩, none, .string⟩

/-- The identity of the inner resource of `spelledInput`. -/
def idSlot : Slot := ⟨⟨"/t", .post⟩, "id", .body ⟨["t", "t", "id"]⟩, none, .string⟩

/-- A resource is created around another one of its type, and the dictionary has the unique name in
upper case. -/
def spelledInput : Input where
  requests := [
    { id := ⟨"/t", .post⟩
      pathParameters := []
      queryParameters := .empty
      bodyParameters := ⟨[⟨"b", .inner ⟨"", none, .object, true, false⟩
        [.inner ⟨"t", none, .object, true, false⟩
          [.leaf (.plain "name" (.ofType .string)),
            .inner ⟨"t", none, .object, true, false⟩
              [.leaf (.plain "id" (.ofType .string))]]]⟩], none⟩
      response := none
      links := [] }]
  records := []
  dictionary := { Dictionary.empty with uuidSuffix := .ofList [("T_NAME", "t")] }
  ofEndpoint := .empty
  options := .standard

/-- What compiling `spelledInput` gives: the identity is supplied by the name, and the name by the
entry of the dictionary. -/
theorem spelledInput_compiles :
    ∃ output result, compile spelledInput = .ok output ∧
      Passes.run (setting spelledInput) = .ok result ∧
        output.grammar.requests.map (·.id) = [⟨"/t", .post⟩] ∧
          ⟨.plain idSlot .body, some (.sibling nameSlot)⟩ ∈ result.wired.wiring.connections ∧
            result.wired.wiring.producerAt? (Consumer.plain nameSlot .body).key =
              some (.dictionary (.uniqueName "T_NAME")) := by
  let read (result : Passes.Result) (grammar : Grammar) :=
    (grammar.requests.map (·.id),
      decide (⟨.plain idSlot .body, some (.sibling nameSlot)⟩ ∈ result.wired.wiring.connections),
      result.wired.wiring.producerAt? (Consumer.plain nameSlot .body).key)
  have computed : ((Passes.run (setting spelledInput)).toOption.bind fun result =>
      (Grammar.build spelledInput.requests spelledInput.options result.wired).toOption.map
        fun built => read result built.1) =
      some ([⟨"/t", .post⟩], true, some (.dictionary (.uniqueName "T_NAME"))) := by
    decide +kernel
  obtain ⟨output, result, compiled, ran, found⟩ := compile_of_computed read computed (by decide)
  rw [Prod.mk.injEq, Prod.mk.injEq, decide_eq_true_eq] at found
  exact ⟨output, result, compiled, ran, found⟩

/-- The name of `spelledInput` is sent as an entry of the dictionary, which is the one in the
address exactly when the dictionary has it in lower case. -/
theorem spelledInput_sibling_address :
    ∃ output result, compile spelledInput = .ok output ∧
      Passes.run (setting spelledInput) = .ok result ∧
        ⟨.plain idSlot .body, some (.sibling nameSlot)⟩ ∈ result.wired.wiring.connections ∧
          ∃ entry, result.wired.wiring.producerAt? (Consumer.plain nameSlot .body).key =
              some (.dictionary entry) ∧
            entry.name ∈ output.dictionary.keys .uuidSuffix ∧
              (entry = .uniqueName "t_name" ↔ "t_name" ∈ output.dictionary.keys .uuidSuffix) := by
  obtain ⟨output, result, compiled, ran, _, member, _⟩ := spelledInput_compiles
  obtain ⟨other, same, addressed⟩ := sibling_address compiled
  obtain rfl : result = other := Except.ok.inj (ran.symm.trans same)
  obtain ⟨container, entry, named, _, producer, _, present, _, _, exact⟩ :=
    addressed _ member nameSlot rfl
  have around : nameSlot.containerName? = some "t" := by decide
  rw [around, Option.some.injEq] at named
  rw [← named] at exact
  exact ⟨output, result, compiled, ran, member, entry, producer, present, exact⟩

/-- The address sent for the identity of `spelledInput` is that of an entry which the dictionary
does not have, and which the name is not sent as. -/
theorem not_addressesByEntry_spelledInput : ¬AddressesByEntry spelledInput := by
  intro shares
  obtain ⟨output, result, compiled, ran, identities, member, producer⟩ := spelledInput_compiles
  obtain ⟨container, entry, named, given, addressed⟩ :=
    shares output compiled result ran _ member nameSlot rfl
  have around : nameSlot.containerName? = some "t" := by decide
  rw [around, Option.some.injEq] at named
  rw [producer, Option.some.injEq, Producer.dictionary.injEq] at given
  obtain ⟨sent, listed, identity⟩ := List.mem_map.mp
    (identities ▸ List.mem_singleton.mpr rfl : _ ∈ output.grammar.requests.map (·.id))
  have sends := addressed sent listed identity
  rw [payload_sibling, Resolution.siblingPayload, around, ← named, ← given, address,
    Except.ok.injEq, Payload.parts.injEq, List.append_cancel_left_eq, List.cons.injEq,
    List.cons.injEq, Payload.custom.injEq] at sends
  exact absurd sends.2.1 (by decide)

end ApiWiring.Compilation
