import ApiWiring.Api.Link
import ApiWiring.Wiring.Slot

/-!
# Consumers and producers

A consumer is a slot of a request that needs a value. What supplies the value is a slot of another
request's response, an entry of the dictionary, or another property of the same body. A consumer is
known by its request, its parameter kind, its name and its path.
-/
namespace ApiWiring

/-- A slot that needs a value. -/
structure Consumer where
  /-- The slot. -/
  slot : Slot
  /-- The kind of parameter the slot is in. -/
  kind : ParameterKind
  /-- The link a user asks for. -/
  link : Option Link
deriving DecidableEq, Repr, Inhabited

/-- What a consumer is known by. -/
structure ConsumerKey where
  /-- The request. -/
  request : RequestId
  /-- The kind of parameter. -/
  kind : ParameterKind
  /-- The name. -/
  name : String
  /-- The path. -/
  path : AccessPath
deriving DecidableEq, Repr, Inhabited

namespace Consumer

/-- A consumer for which no user asks a link. -/
def plain (slot : Slot) (kind : ParameterKind) : Consumer := ⟨slot, kind, none⟩

/-- What the consumer is known by. -/
def key (consumer : Consumer) : ConsumerKey :=
  ⟨consumer.slot.request, consumer.kind, consumer.slot.name, consumer.slot.accessPath⟩

/-- The names to look for producers by: what a response would call the value, then its own name. -/
def candidateNames (consumer : Consumer) : List String :=
  match consumer.slot.producerName? with
  | some derived =>
    if derived = consumer.slot.name then [consumer.slot.name] else [derived, consumer.slot.name]
  | none => [consumer.slot.name]

end Consumer

/-- What supplies a value. -/
inductive Producer where
  /-- A value in the response of a request. -/
  | response (slot : Slot)
  /-- An entry of the dictionary. -/
  | dictionary (entry : CustomPayload)
  /-- Another property of the consumer's body, put behind the request's path. -/
  | sibling (slot : Slot)
deriving DecidableEq, Repr, Inhabited

namespace Producer

/-- The text that names a producer in messages. -/
def describe : Producer → String
  | .response slot => slot.request.display ++ " " ++ slot.accessPath.pointer
  | .dictionary entry => "dictionary " ++ label entry.section_ ++ " '" ++ entry.name ++ "'"
  | .sibling slot => "same body " ++ slot.accessPath.pointer

/-- Whether the value comes from the dictionary. -/
def isDictionary : Producer → Bool
  | .dictionary _ => true
  | _ => false

/-- Whether the value comes from the consumer's own body. -/
def isSibling : Producer → Bool
  | .sibling _ => true
  | _ => false

end Producer

end ApiWiring
