import ApiWiring.Wiring.Basic
import ApiWiring.Wiring.Inference
import ApiWiring.Wiring.Survey

/-!
# The two passes

The wiring of a list of requests is built in two passes over their surveys. The first infers the
producers of every request's consumers, each request on its own from the starting dictionary; the
entries that the requests add are then merged in the order of the requests, and every dictionary
entry that a consumer got takes the spelling of its key there. The second pass reads the result of
the first: an `id` property of a body that has no producer is supplied by a `name` property of the
same body, which itself gets a unique name.
-/
namespace ApiWiring

/-- What the passes work on. -/
structure Setting where
  /-- The requests. -/
  requests : List Request
  /-- The links that hold everywhere. -/
  everywhere : List Link
  /-- The starting dictionary. -/
  dictionary : Dictionary
  /-- Dictionaries of single endpoints. -/
  ofEndpoint : SortedEntries Dictionary
  /-- What is to be inferred. -/
  options : Options
deriving Repr, Inhabited

/-- A wiring and the dictionary that goes with it. -/
structure Wired where
  /-- The wiring. -/
  wiring : Wiring
  /-- The dictionary. -/
  dictionary : Dictionary
deriving Repr, Inhabited

/-- The spelling of a dictionary entry's key taken from a dictionary that has it. -/
def CustomPayload.respelled (entry : CustomPayload) (dictionary : Dictionary) : CustomPayload :=
  { entry with name := (dictionary.key? entry.section_ entry.name).getD entry.name }

/-- A connection whose dictionary entry, if it has one, is spelled as in a dictionary. -/
def Connection.respelled (connection : Connection) (dictionary : Dictionary) : Connection :=
  match connection.producer? with
  | some (.dictionary entry) =>
    { connection with producer? := some (.dictionary (entry.respelled dictionary)) }
  | _ => connection

namespace Passes

/-- The surveys of all requests. -/
def surveys (setting : Setting) : Except Failure (List Survey) :=
  setting.requests.mapM (Survey.ofRequest setting.options setting.everywhere)

/-- The inference from all slots that the surveys offer. -/
def inference (setting : Setting) (surveys : List Survey) : Inference where
  catalog := .ofLists (surveys.flatMap (·.responses)) (surveys.flatMap (·.siblings))
  allowGet := setting.options.allowGet

/-- The producers of consumers in turn, with the dictionary after them. -/
def inferAll (inference : Inference) (ofEndpoint : Option Dictionary) (dictionary : Dictionary) :
    List Consumer → List Connection × Dictionary
  | [] => ([], dictionary)
  | consumer :: rest =>
    let (producer?, dictionary) := inference.find consumer dictionary ofEndpoint
    let (connections, dictionary) := inferAll inference ofEndpoint dictionary rest
    (⟨consumer, producer?⟩ :: connections, dictionary)

/-- The connections of one request, inferred from the starting dictionary, with the dictionary
after them. -/
def inferRequest (setting : Setting) (inference : Inference) (survey : Survey) :
    List Connection × Dictionary :=
  inferAll inference (setting.ofEndpoint.get? survey.request.endpoint) setting.dictionary
    survey.consumers

/-- Puts connections into a wiring, spelled as in a dictionary. -/
def connectAll (dictionary : Dictionary) (wiring : Wiring) (connections : List Connection) :
    Except Failure Wiring :=
  connections.foldlM
    (fun wiring connection => do
      let (wiring, _) ← wiring.connect (connection.respelled dictionary)
      return wiring)
    wiring

/-- Takes up the connections of one request, after the entries it adds to the dictionary. -/
def takeUp (wired : Wired) (inferred : List Connection × Dictionary) : Except Failure Wired := do
  let dictionary := (wired.dictionary.mergeMissing inferred.2).1
  let wiring ← connectAll dictionary wired.wiring inferred.1
  return { wiring, dictionary }

/-- The result of the first pass. -/
def first (setting : Setting) (surveys : List Survey) : Except Failure Wired :=
  (surveys.map (inferRequest setting (inference setting surveys))).foldlM takeUp
    { wiring := .empty, dictionary := setting.dictionary }

/-- The unique name that stands for a `name` property: its container and its own name. -/
def siblingEntry (container : String) (slot : Slot) : CustomPayload :=
  .uniqueName (container ++ "_" ++ slot.name)

/-- The connections that the second pass makes for a consumer: the consumer with the `name` property
that supplies it, and that property with its unique name. A property that some response or other
property supplies is left alone. -/
def siblingConnections (inference : Inference) (wiring : Wiring) (consumer : Consumer) :
    List Connection :=
  if ((wiring.get? consumer.key).bind (·.producer?)).isSome then []
  else match inference.sibling? consumer with
    | none => []
    | some slot =>
      match slot.containerName? with
      | none => []
      | some container =>
        let supplier := Consumer.plain slot .body
        let existing := (wiring.get? supplier.key).bind (·.producer?)
        if existing.any fun producer => !producer.isDictionary then []
        else [⟨consumer, some (.sibling slot)⟩,
          ⟨supplier, some (.dictionary (siblingEntry container slot))⟩]

/-- A wiring and its dictionary during the second pass. -/
structure Progress where
  /-- The wiring and its dictionary. -/
  wired : Wired
  /-- How many consumers were supplied from their own body. -/
  siblingCount : Nat
deriving Repr, Inhabited

/-- A dictionary with the entry that a connection takes, if it takes one. -/
def registered (dictionary : Dictionary) (connection : Connection) : Dictionary :=
  match connection.producer? with
  | some (.dictionary entry) => (dictionary.register entry).1
  | _ => dictionary

/-- Takes up one connection of the second pass. -/
def retake (progress : Progress) (connection : Connection) : Except Failure Progress := do
  let connection := connection.respelled progress.wired.dictionary
  let dictionary := registered progress.wired.dictionary connection
  let (wiring, outcome) ← progress.wired.wiring.reconnect connection
  let counts := outcome != .unchanged && connection.producer?.any Producer.isSibling
  return { wired := { wiring, dictionary }, siblingCount := progress.siblingCount + counts.toNat }

/-- The result of the second pass. -/
def second (inference : Inference) (surveys : List Survey) (wired : Wired) :
    Except Failure Progress :=
  (surveys.flatMap fun survey =>
    survey.consumers.flatMap (siblingConnections inference wired.wiring)).foldlM retake
      { wired, siblingCount := 0 }

/-- What the two passes give. -/
structure Result where
  /-- The wiring and its dictionary. -/
  wired : Wired
  /-- The number of slots that responses offer. -/
  responseCount : Nat
  /-- The number of body properties that may supply others. -/
  siblingProducerCount : Nat
  /-- The number of consumers supplied from their own body. -/
  siblingCount : Nat
  /-- What is to be reported. -/
  warnings : List Warning
deriving Repr, Inhabited

/-- The wiring of all requests. -/
def run (setting : Setting) : Except Failure Result := do
  let surveys ← surveys setting
  let inference := inference setting surveys
  let wired ← first setting surveys
  let progress ← second inference surveys wired
  return {
    wired := progress.wired
    responseCount := inference.catalog.responseCount
    siblingProducerCount := inference.catalog.siblingCount
    siblingCount := progress.siblingCount
    warnings := surveys.flatMap (·.warnings) ++
      surveys.flatMap fun survey => survey.consumers.flatMap inference.linkWarnings }

end Passes

end ApiWiring
