import ApiWiring.Wiring.Basic

/-!
# The manifest of dependencies

Every consumer with its producer, grouped by endpoint, method and parameter kind, each group in the
order of the consumers' names. A line is spelled like a record of a link, so that it can be copied
into a file of links.
-/
namespace ApiWiring

/-- What kind of producer a consumer has. -/
inductive ProducerKind where
  | response | dictionary | sameBody
deriving DecidableEq, Repr, Inhabited

instance : Labelled ProducerKind where
  all := [.response, .dictionary, .sameBody]
  label
    | .response => "response"
    | .dictionary => "dictionary"
    | .sameBody => "same_body"

/-- A consumer with its producer, as texts. -/
structure ManifestEntry where
  /-- The endpoint of the producer. -/
  producerEndpoint : Option String
  /-- The method of the producer. -/
  producerMethod : Option String
  /-- The name or the pointer of the value produced, or the key of the dictionary entry. -/
  producerResourceName : Option String
  /-- The name or the pointer of the consumer. -/
  consumerParam : String
  /-- What kind of producer it is; `none` for a consumer without one. -/
  producerKind : Option ProducerKind
deriving DecidableEq, Repr, Inhabited

namespace ManifestEntry

/-- Whether the consumer has a producer. -/
def isResolved (entry : ManifestEntry) : Bool := entry.producerKind.isSome

/-- The text that names a consumer: the name of a path or query parameter, the pointer of a
property. -/
def consumerText (slot : Slot) : String :=
  match slot.site with
  | .path _ => slot.name
  | .query path => if path.length = 1 then slot.name else path.pointer
  | .body path => path.pointer

/-- The text that names a producer in its request: the name of a value at the top, the pointer of
one below. -/
def producerText (slot : Slot) : String :=
  if 1 < slot.accessPath.length then slot.accessPath.pointer else slot.name

/-- The entry of a consumer supplied by a slot. -/
def ofSlot (consumerParam : String) (slot : Slot) (kind : ProducerKind) : ManifestEntry where
  producerEndpoint := some slot.request.endpoint
  producerMethod := some (label slot.request.method)
  producerResourceName := some (producerText slot)
  consumerParam
  producerKind := some kind

/-- The entry of a connection. -/
def ofConnection (connection : Connection) : ManifestEntry :=
  let consumerParam := consumerText connection.consumer.slot
  match connection.producer? with
  | none => ⟨none, none, none, consumerParam, none⟩
  | some (.response slot) => ofSlot consumerParam slot .response
  | some (.sibling slot) => ofSlot consumerParam slot .sameBody
  | some (.dictionary entry) => ⟨none, none, some entry.name, consumerParam, some .dictionary⟩

/-- Whether one entry goes before another, or beside it. -/
def notAfter (left right : ManifestEntry) : Bool :=
  !decide (right.consumerParam < left.consumerParam)

end ManifestEntry

/-- Entries by endpoint, method and parameter kind. -/
structure Manifest where
  /-- The groups. -/
  groups : SortedEntries (SortedEntries (SortedEntries (List ManifestEntry)))
deriving DecidableEq, Repr

namespace Manifest

/-- The manifest without entries. -/
def empty : Manifest := ⟨.empty⟩

instance : Inhabited Manifest := ⟨empty⟩

/-- The manifest with one more entry at the end of its group. -/
def push (manifest : Manifest) (endpoint method kind : String) (entry : ManifestEntry) : Manifest :=
  ⟨manifest.groups.alter endpoint fun methods =>
    (methods.getD .empty).alter method fun kinds => (kinds.getD .empty).push kind entry⟩

/-- The manifest with the entries of each group in order. -/
def sorted (manifest : Manifest) : Manifest :=
  ⟨manifest.groups.mapValues fun methods => methods.mapValues fun kinds =>
    kinds.mapValues fun entries => entries.mergeSort ManifestEntry.notAfter⟩

/-- The manifest of a wiring. -/
def ofWiring (wiring : Wiring) : Manifest :=
  (wiring.connections.foldl
    (fun manifest connection =>
      let request := connection.consumer.slot.request
      manifest.push request.endpoint (label request.method) (label connection.consumer.kind)
        (.ofConnection connection))
    empty).sorted

/-- An entry with the names of its groups. -/
structure Line where
  /-- The endpoint of the consumer. -/
  endpoint : String
  /-- The method of the consumer. -/
  method : String
  /-- The parameter kind of the consumer. -/
  kind : String
  /-- The entry. -/
  entry : ManifestEntry
deriving DecidableEq, Repr, Inhabited

/-- All entries, group by group. -/
def lines (manifest : Manifest) : List Line :=
  manifest.groups.toList.flatMap fun (endpoint, methods) =>
    methods.toList.flatMap fun (method, kinds) =>
      kinds.toList.flatMap fun (kind, entries) => entries.map (⟨endpoint, method, kind, ·⟩)

/-- Whether there are no groups. -/
def isEmpty (manifest : Manifest) : Bool := manifest.groups.toList.isEmpty

end Manifest

end ApiWiring
