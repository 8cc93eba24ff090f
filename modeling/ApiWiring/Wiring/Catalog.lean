import ApiWiring.Keyed.Sorted
import ApiWiring.Wiring.Slot

/-!
# The catalog of producers

Producers are kept by name, those of one name in the order in which they were registered: the slots
of responses, and apart from them the slots of bodies that may supply other slots of their body.
Every look-up answers with a part of these lists in that order. A name is similar to another when
the two differ in casing style only; similar names are answered in ascending order, after the name
itself.
-/
namespace ApiWiring

/-- Producers by name. -/
structure Catalog where
  /-- Slots of responses. -/
  responses : SortedEntries (List Slot)
  /-- Slots of bodies that may supply others of their body. -/
  siblings : SortedEntries (List Slot)
deriving Repr

namespace Catalog

/-- The catalog without producers. -/
def empty : Catalog := ⟨.empty, .empty⟩

instance : Inhabited Catalog := ⟨empty⟩

/-- The catalog with one more slot of a response. -/
def addResponse (catalog : Catalog) (slot : Slot) : Catalog :=
  { catalog with responses := catalog.responses.push slot.name slot }

/-- The catalog with one more slot of a body. -/
def addSibling (catalog : Catalog) (slot : Slot) : Catalog :=
  { catalog with siblings := catalog.siblings.push slot.name slot }

/-- The response slots of exactly this name. -/
def named (catalog : Catalog) (name : String) : List Slot := catalog.responses.bucket name

/-- The other names that differ from this one in casing style only, in ascending order. -/
def similarNames (catalog : Catalog) (name : String) : List String :=
  let normalized := Naming.normalized name
  catalog.responses.keys.filter fun other =>
    other != name && Naming.normalized other == normalized

/-- The response slots of this name, then those of similar names. -/
def matching (catalog : Catalog) (name : String) : List Slot :=
  catalog.named name ++ (catalog.similarNames name).flatMap catalog.named

/-- The response slots of this name in requests to an endpoint by one of the methods. -/
def atEndpoint (catalog : Catalog) (name endpoint : String) (methods : List Method) : List Slot :=
  (catalog.named name).filter fun slot =>
    slot.request.endpoint == endpoint && methods.contains slot.request.method

/-- The response slots of this name with a type name among their candidates. -/
def ofType (catalog : Catalog) (name type : String) : List Slot :=
  (catalog.named name).filter fun slot => slot.candidateTypeNames.contains type

/-- The response slots of this name with a type name, then those of similar names. -/
def ofTypeMatching (catalog : Catalog) (name type : String) : List Slot :=
  catalog.ofType name type ++ (catalog.similarNames name).flatMap (catalog.ofType · type)

/-- The body slots of this name in a request. -/
def siblingsOf (catalog : Catalog) (name : String) (request : RequestId) : List Slot :=
  (catalog.siblings.bucket name).filter (·.request == request)

/-- The number of response slots. -/
def responseCount (catalog : Catalog) : Nat := catalog.responses.allValues.length

/-- The number of body slots. -/
def siblingCount (catalog : Catalog) : Nat := catalog.siblings.allValues.length

/-- The catalog of response slots and body slots registered in turn. -/
def ofLists (responses siblings : List Slot) : Catalog :=
  siblings.foldl addSibling (responses.foldl addResponse empty)

/-- Registering a response slot adds it behind those of its name. -/
theorem named_addResponse (catalog : Catalog) (slot : Slot) (name : String) :
    (catalog.addResponse slot).named name =
      catalog.named name ++ if name = slot.name then [slot] else [] := by
  simp [named, addResponse, SortedEntries.bucket_push]

/-- Registering a body slot leaves the response slots as they are. -/
@[simp] theorem named_addSibling (catalog : Catalog) (slot : Slot) (name : String) :
    (catalog.addSibling slot).named name = catalog.named name := rfl

end Catalog

end ApiWiring
