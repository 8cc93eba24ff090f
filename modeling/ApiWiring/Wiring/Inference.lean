import ApiWiring.Api.Dictionary
import ApiWiring.Wiring.Requested

/-!
# Inference of producers

Where the value of one consumer comes from. The rules are tried in a fixed order and the first that
gives a producer counts: a link a user asks for; an entry of the dictionary, that of the endpoint
before the general one; then, for each name that a producer may have, the rules that go by endpoint
for path parameters and by type for all others. A path parameter of the request that creates its
resource gets a unique name, for which an entry is added to the dictionary. That no rule gives a
producer is a normal outcome.
-/
namespace ApiWiring

/-- Whether a response slot may supply a consumer. On one endpoint only an earlier step in the life
of a resource supplies a later one; across endpoints a child never supplies its parent. -/
def isValidProducer (allowGet : Bool) (producer : Slot) (consumer : Consumer) : Bool :=
  let supplier := producer.request
  let user := consumer.slot.request
  (allowGet || supplier.method.creates) &&
    if supplier.endpoint = user.endpoint then
      supplier.method != user.method && supplier.method.lifecycleRank < user.method.lifecycleRank
    else !Endpoint.isLeading user.endpoint supplier.endpoint

/-- The producers that inference chooses from. -/
structure Inference where
  /-- All producers. -/
  catalog : Catalog
  /-- Whether responses to reading requests produce. -/
  allowGet : Bool
deriving Repr, Inhabited

namespace Inference

/-- The methods of requests that produce. -/
def methods (inference : Inference) : List Method :=
  if inference.allowGet then [.post, .put, .get] else [.post, .put]

/-- Those of the slots that may supply a consumer. -/
def valid (inference : Inference) (consumer : Consumer) (slots : List Slot) : List Slot :=
  slots.filter (isValidProducer inference.allowGet · consumer)

/-- The endpoint right before the consumer's segment. -/
def endpointBefore? (consumer : Consumer) : Option String :=
  Endpoint.before? consumer.slot.name consumer.slot.request.endpoint

/-- The producers of a name at the endpoint right before the consumer's segment. -/
def atEndpointBefore (inference : Inference) (consumer : Consumer) (name : String) : List Slot :=
  match endpointBefore? consumer with
  | some endpoint =>
    inference.valid consumer (inference.catalog.atEndpoint name endpoint inference.methods)
  | none => []

/-- The producers of a name or a similar one whose endpoint is that before the consumer's segment
once parameter names are erased. -/
def atSimilarEndpoint (inference : Inference) (consumer : Consumer) (name : String) : List Slot :=
  match endpointBefore? consumer with
  | some endpoint =>
    let normalized := Endpoint.normalized endpoint
    inference.valid consumer <| (inference.catalog.matching name).filter fun slot =>
      inference.methods.contains slot.request.method &&
        Endpoint.normalized slot.request.endpoint == normalized
  | none => []

/-- Whether the consumer's request creates the resource that the consumer names. -/
def createsOwnResource (consumer : Consumer) : Bool :=
  consumer.slot.request.method == .put &&
    Endpoint.endsWithParameter consumer.slot.name consumer.slot.request.endpoint

/-- The unique name for a consumer whose request creates its resource, under the spelling of its key
that the dictionary has. -/
def uniqueName (consumer : Consumer) (dictionary : Dictionary) : CustomPayload :=
  .uniqueName ((dictionary.uuidSuffix.key? consumer.slot.name).getD consumer.slot.name)

/-- The producer of a creating request at the endpoint through the consumer's segment: under the
given name, else under one of two usual names, the value nearest to the root. -/
def created? (inference : Inference) (consumer : Consumer) (name : String) : Option Slot := do
  let endpoint ← Endpoint.through? consumer.slot.name consumer.slot.request.endpoint
  [name, "id", "name"].eraseDups.findSome? fun candidate =>
    (inference.valid consumer (inference.catalog.atEndpoint candidate endpoint [.put])).minOn?
      (·.accessPath.length)

/-- The values of a name at the top of the response of a creating request, of a given type. -/
def topOfType (inference : Inference) (consumer : Consumer) (name type : String) : List Slot :=
  (inference.catalog.ofType name type).filter fun slot =>
    slot.request.method.creates && slot.accessPath.length == 1 &&
      isValidProducer inference.allowGet slot consumer

/-- The producer of a name whose type is that of the consumer's container: by the first spelling of
the type, else by the other spellings if all of these agree on one endpoint. -/
def ofContainer? (inference : Inference) (consumer : Consumer) (name : String) : Option Slot :=
  match consumer.slot.containerName?, consumer.slot.candidateTypeNames with
  | some _, first :: others =>
    (inference.topOfType consumer name first).head?.or <|
      let slots := others.flatMap (inference.topOfType consumer name)
      if (slots.map (·.request.endpoint)).eraseDups.length = 1 then slots.head? else none
  | _, _ => none

/-- The producers of a name whose type is the one the consumer's name speaks of. -/
def ofImpliedType (inference : Inference) (consumer : Consumer) (name : String) : List Slot :=
  match consumer.slot.impliedType? with
  | some type => inference.valid consumer (inference.catalog.ofType name type)
  | none => []

/-- The producer of a path parameter by a name, with the dictionary after it. -/
def pathProducer? (inference : Inference) (consumer : Consumer) (dictionary : Dictionary)
    (name : String) : Option (Producer × Dictionary) :=
  match (inference.atEndpointBefore consumer name).head? with
  | some slot => some (.response slot, dictionary)
  | none =>
    if createsOwnResource consumer then
      let entry := uniqueName consumer dictionary
      some (.dictionary entry, (dictionary.register entry).1)
    else
      ((inference.created? consumer name).or
        (inference.atSimilarEndpoint consumer name).head?).map (.response ·, dictionary)

/-- The producer of a query or body value by a name. -/
def valueProducer? (inference : Inference) (consumer : Consumer) (name : String) : Option Slot :=
  (inference.ofContainer? consumer name).or (inference.ofImpliedType consumer name).head?

/-- The producer of a consumer by a name, with the dictionary after it. -/
def namedProducer? (inference : Inference) (consumer : Consumer) (dictionary : Dictionary)
    (name : String) : Option (Producer × Dictionary) :=
  match consumer.kind with
  | .path => inference.pathProducer? consumer dictionary name
  | .query | .body => (inference.valueProducer? consumer name).map (.response ·, dictionary)

/-- The keys under which the dictionary may have a consumer's value: its pointer, except for path
parameters, then its name. -/
def dictionaryKeys (consumer : Consumer) : List String :=
  match consumer.kind with
  | .path => [consumer.slot.name]
  | .query | .body => [consumer.slot.accessPath.pointer, consumer.slot.name]

/-- The section and the spelling under which a dictionary has a key. -/
def entryFor? (dictionary : Dictionary) (key : String) : Option (DictionarySection × String) :=
  ((dictionary.custom.key? key).map (.string, ·)).or
    ((dictionary.uuidSuffix.key? key).map (.uuidSuffix, ·))

/-- The dictionary entry for a consumer; its endpoint's dictionary goes before the general one. -/
def dictionaryEntry? (consumer : Consumer) (ofEndpoint : Option Dictionary)
    (dictionary : Dictionary) : Option CustomPayload :=
  ((ofEndpoint.toList ++ [dictionary]).findSome? fun source =>
    (dictionaryKeys consumer).findSome? (entryFor? source)).map fun (section_, name) =>
      { section_, type := consumer.slot.type, name, isObject := consumer.slot.type == .object }

/-- The producer that the link of a consumer names. -/
def linkedProducer? (inference : Inference) (consumer : Consumer) : Option Slot :=
  consumer.link.bind (Link.producerSlot? inference.catalog)

/-- The report on a link whose producer is not there. -/
def linkWarnings (inference : Inference) (consumer : Consumer) : List Warning :=
  match consumer.link with
  | some link =>
    if (link.producerSlot? inference.catalog).isNone then [link.producerNotFound consumer.slot]
    else []
  | none => []

/-- The producer of a consumer that no link supplies, with the dictionary after it. -/
def inferred? (inference : Inference) (consumer : Consumer) (dictionary : Dictionary)
    (ofEndpoint : Option Dictionary) : Option (Producer × Dictionary) :=
  match dictionaryEntry? consumer ofEndpoint dictionary with
  | some entry => some (.dictionary entry, dictionary)
  | none => consumer.candidateNames.findSome? (inference.namedProducer? consumer dictionary)

/-- The producer of a consumer, with the dictionary after it. -/
def find (inference : Inference) (consumer : Consumer) (dictionary : Dictionary)
    (ofEndpoint : Option Dictionary) : Option Producer × Dictionary :=
  match inference.linkedProducer? consumer with
  | some slot => (some (.response slot), dictionary)
  | none =>
    match inference.inferred? consumer dictionary ofEndpoint with
    | some (producer, dictionary) => (some producer, dictionary)
    | none => (none, dictionary)

/-- The length of the longest type name that two slots share, in bytes. -/
def sharedTypeLength? (left right : Slot) : Option Nat :=
  ((left.candidateTypeNames.filter right.candidateTypeNames.contains).map
    String.utf8ByteSize).max?

/-- Whether a property of a body may supply another one: it is nearer to the root, not beside it,
and shares a type name with it. -/
def isValidSibling (producer consumer : Slot) : Bool :=
  producer.accessPath.length < consumer.accessPath.length &&
    producer.accessPath.parent != consumer.accessPath.parent &&
      (sharedTypeLength? producer consumer).isSome

/-- The `name` property of a body that names the resource an `id` property of the same body speaks
of: of the longest shared type name, then nearest to the root. -/
def sibling? (inference : Inference) (consumer : Consumer) : Option Slot :=
  if consumer.kind = .body ∧ consumer.slot.name = "id" ∧ consumer.slot.containerName?.isSome then
    let slots := (inference.catalog.siblingsOf "name" consumer.slot.request).filter
      (isValidSibling · consumer.slot)
    let longest := (slots.filterMap (sharedTypeLength? · consumer.slot)).max?
    (slots.filter fun slot => sharedTypeLength? slot consumer.slot == longest).minOn?
      (·.accessPath.length)
  else none

end Inference

end ApiWiring
