import ApiWiring.Report.Warning
import ApiWiring.Wiring.Catalog
import ApiWiring.Wiring.Role

/-!
# Links that users ask for

Which link applies to a consumer, and which slot it names as the producer. Links written at a
request go before those that hold everywhere; of several links with different producers the first
counts, and the choice is reported.
-/
namespace ApiWiring

namespace Link

/-- The links of records written at `owner`; records that are no links are reported. -/
def ofRecords (records : List LinkRecord) (owner : Option RequestId) (origin : String) :
    List Link × List Warning :=
  records.foldr
    (fun record (links, warnings) =>
      match ofRecord record owner with
      | .ok link => (link :: links, warnings)
      | .error fault => (links, .invalidLink origin fault :: warnings))
    ([], [])

/-- Whether a link speaks of a slot: it names the slot as consumer, does not except the slot's
request, and does not have it produce for itself. -/
def appliesTo (link : Link) (slot : Slot) : Bool :=
  link.producer != slot.request && !link.excepts slot.request &&
    link.consumer.all (· == slot.request) &&
      match link.consumerParameter with
      | .named name => name == slot.name
      | .located path => path == slot.accessPath

/-- The links that apply to a slot, those at the request before the others, each producer once. -/
def applying (atRequest everywhere : List Link) (slot : Slot) : List Link :=
  ((atRequest ++ everywhere).filter (·.appliesTo slot)).eraseDupsBy fun left right =>
    left.producer == right.producer && left.producerParameter == right.producerParameter

/-- The link that counts for a slot, with a report when there are several. -/
def find? (atRequest everywhere : List Link) (slot : Slot) : Option Link × List Warning :=
  let links := applying atRequest everywhere slot
  (links.head?,
    if 1 < links.length then [.ambiguousLink slot.request slot.accessPath links.length] else [])

/-- The slot that a link names as the producer: by path the slot at that path, by name the first of
those nearest to the root. -/
def producerSlot? (catalog : Catalog) (link : Link) : Option Slot := do
  let name ← link.producerParameter.resourceName?
  let slots := (catalog.named name).filter (·.request == link.producer)
  match link.producerParameter with
  | .located path => slots.find? (·.accessPath == path)
  | .named _ => slots.minOn? (·.accessPath.length)

/-- The report that the producer of a link is not there. -/
def producerNotFound (link : Link) (slot : Slot) : Warning :=
  .producerNotFound link.producer link.producerParameter slot.request slot.accessPath

end Link

end ApiWiring
