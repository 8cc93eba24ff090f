import ApiWiring.Keyed.Sorted
import ApiWiring.Report.Failure

/-!
# The wiring

The wiring says of each consumer where its value comes from. It holds at most one connection for a
consumer's key, connections of one name in the order in which they came, the names ascending. A
connection is settled once: connecting again with the same producer changes nothing, a consumer
without producer may get one, and a second producer is a failure. Only an entry of the dictionary
may give way to another producer, and only by `reconnect`.
-/
namespace ApiWiring

/-- A consumer with its producer, if it has one. -/
structure Connection where
  /-- The consumer. -/
  consumer : Consumer
  /-- The producer. -/
  producer? : Option Producer
deriving DecidableEq, Repr, Inhabited

/-- Connections by the name of the consumer. -/
structure Wiring where
  /-- The connections of each name. -/
  byName : SortedEntries (List Connection)
deriving Repr

namespace Wiring

/-- What putting a connection into the wiring did. -/
inductive Outcome where
  /-- The consumer was new. -/
  | added
  /-- The consumer had no producer and got one. -/
  | resolved
  /-- The consumer's dictionary entry gave way. -/
  | replaced
  /-- The consumer is as it was. -/
  | unchanged
deriving DecidableEq, Repr, Inhabited

/-- The wiring without consumers. -/
def empty : Wiring := ⟨.empty⟩

instance : Inhabited Wiring := ⟨empty⟩

/-- All connections, by ascending names. -/
def connections (wiring : Wiring) : List Connection := wiring.byName.allValues

/-- The connection of a key. -/
def get? (wiring : Wiring) (key : ConsumerKey) : Option Connection :=
  (wiring.byName.bucket key.name).find? (·.consumer.key == key)

/-- The producer of the value at a path of a parameter kind. -/
def producerFor? (wiring : Wiring) (request : RequestId) (kind : ParameterKind)
    (path : AccessPath) : Option Producer := do
  let name ← path.resourceName?
  let connection ← (wiring.byName.bucket name).find? fun connection =>
    connection.consumer.kind == kind && connection.consumer.slot.request == request &&
      connection.consumer.slot.accessPath == path
  connection.producer?

/-- A list with the first connection of a key exchanged. -/
def exchange (key : ConsumerKey) (connection : Connection) : List Connection → List Connection
  | [] => []
  | first :: rest =>
    if first.consumer.key = key then connection :: rest else first :: exchange key connection rest

/-- The wiring with a new connection behind those of its name. -/
def add (wiring : Wiring) (connection : Connection) : Wiring :=
  ⟨wiring.byName.push connection.consumer.slot.name connection⟩

/-- The wiring with the connection of a consumer exchanged. -/
def put (wiring : Wiring) (connection : Connection) : Wiring :=
  ⟨wiring.byName.alter connection.consumer.slot.name fun bucket =>
    exchange connection.consumer.key connection (bucket.getD [])⟩

/-- Puts a connection into the wiring. -/
def connect (wiring : Wiring) (connection : Connection) : Except Failure (Wiring × Outcome) :=
  let key := connection.consumer.key
  match wiring.get? key with
  | none => .ok (wiring.add connection, .added)
  | some existing =>
    match existing.producer?, connection.producer? with
    | _, none => .ok (wiring, .unchanged)
    | none, some _ => .ok (wiring.put connection, .resolved)
    | some current, some attempted =>
      if current = attempted then .ok (wiring, .unchanged)
      else .error (.conflictingProducers key current attempted)

/-- Whether a connection takes the place of a dictionary entry. -/
def supersedes (wiring : Wiring) (connection : Connection) : Bool :=
  match wiring.get? connection.consumer.key with
  | some existing =>
    existing.producer?.any Producer.isDictionary && connection.producer?.isSome &&
      existing.producer? != connection.producer?
  | none => false

/-- Puts a connection into the wiring; a dictionary entry gives way to a different producer. -/
def reconnect (wiring : Wiring) (connection : Connection) : Except Failure (Wiring × Outcome) :=
  if wiring.supersedes connection then .ok (wiring.put connection, .replaced)
  else wiring.connect connection

end Wiring

end ApiWiring
