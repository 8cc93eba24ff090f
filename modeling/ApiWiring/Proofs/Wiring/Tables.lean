import ApiWiring.Proofs.Keyed.Shelves
import ApiWiring.Proofs.Representatives
import ApiWiring.Proofs.Wiring.Registration

/-!
# Producers in tables

Producers can be kept once for each way to look them up: by name, by name and endpoint, by name and
each candidate of their type, and the names by what is left of them without their casing style; body
slots by name and request. Every registration changes several of these tables, and the tables stay a
picture of the two lists of a catalog (`Tables.Mirrors`): whatever is looked up in them is what the
catalog answers, so it is the part of what was registered that it stands for.
-/
namespace ApiWiring

/-- The candidates of a type are distinct. -/
theorem Slot.nodup_candidateTypeNames (slot : Slot) : slot.candidateTypeNames.Nodup := by
  unfold candidateTypeNames
  split
  · exact .nil
  · exact Representatives.nodup_eraseDups _

/-- Producers in one table for each way to look them up. -/
structure Tables where
  /-- Response slots by name. -/
  byName : SortedEntries (List Slot)
  /-- The names of response slots by what they are without their casing style. -/
  namesByForm : SortedEntries (SortedEntries Unit)
  /-- Response slots by name and endpoint. -/
  byEndpoint : Shelves (String × String) Slot
  /-- Response slots by name and type name. -/
  byType : Shelves (String × String) Slot
  /-- Body slots by name and request. -/
  bodies : Shelves (String × RequestId) Slot
deriving Repr

namespace Tables

/-- The tables without producers. -/
def empty : Tables := ⟨.empty, .empty, .empty, .empty, .empty⟩

instance : Inhabited Tables := ⟨empty⟩

/-- The tables with one more slot of a response. -/
def addResponse (tables : Tables) (slot : Slot) : Tables where
  byName := tables.byName.push slot.name slot
  namesByForm := tables.namesByForm.alter (Naming.normalized slot.name) fun names =>
    (names.getD .empty).insert slot.name ()
  byEndpoint := tables.byEndpoint.put (slot.name, slot.request.endpoint) slot
  byType := (slot.candidateTypeNames.map (slot.name, ·)).foldl
    (fun table key => table.put key slot) tables.byType
  bodies := tables.bodies

/-- The tables with one more slot of a body. -/
def addSibling (tables : Tables) (slot : Slot) : Tables :=
  { tables with bodies := tables.bodies.put (slot.name, slot.request) slot }

/-- The tables with one more registration. -/
def register (tables : Tables) : Registration → Tables
  | .response slot => tables.addResponse slot
  | .sibling slot => tables.addSibling slot

/-- The tables of registrations in turn. -/
def ofRegistrations (registrations : List Registration) : Tables :=
  registrations.foldl register empty

/-- The names that are the same without their casing style, in ascending order. -/
def namesOf (tables : Tables) (form : String) : List String :=
  ((tables.namesByForm.get? form).getD .empty).keys

/-- The other names that differ from this one in casing style only, in ascending order. -/
def similarNames (tables : Tables) (name : String) : List String :=
  (tables.namesOf (Naming.normalized name)).filter (· != name)

/-- What is looked up in the tables. -/
def lookups (tables : Tables) : Lookups where
  named := tables.byName.bucket
  matching name :=
    tables.byName.bucket name ++ (tables.similarNames name).flatMap tables.byName.bucket
  atEndpoint name endpoint methods :=
    (tables.byEndpoint.bucket (name, endpoint)).filter (methods.contains ·.request.method)
  ofType name type := tables.byType.bucket (name, type)
  ofTypeMatching name type :=
    tables.byType.bucket (name, type) ++
      (tables.similarNames name).flatMap fun other => tables.byType.bucket (other, type)
  siblingsOf name request := tables.bodies.bucket (name, request)
  responseCount := tables.byName.allValues.length
  siblingCount := tables.bodies.count

/-! ## What the tables show -/

/-- Whether tables show what a catalog holds. -/
structure Mirrors (tables : Tables) (catalog : Catalog) : Prop where
  /-- By name there is what the catalog has. -/
  byName : tables.byName = catalog.responses
  /-- The names are those of the catalog. -/
  names : ∀ form,
    tables.namesOf form = catalog.responses.keys.filter (Naming.normalized · == form)
  /-- By name and endpoint there are the slots of the name at the endpoint. -/
  endpoints : ∀ name endpoint, tables.byEndpoint.bucket (name, endpoint) =
    (catalog.named name).filter (·.request.endpoint == endpoint)
  /-- By name and type name there are the slots of the name with this type. -/
  types : ∀ name type, tables.byType.bucket (name, type) = catalog.ofType name type
  /-- By name and request there are the body slots of the name in the request. -/
  bodies : ∀ name request,
    tables.bodies.bucket (name, request) = catalog.siblingsOf name request
  /-- There are as many body slots. -/
  bodyCount : tables.bodies.count = catalog.siblingCount

variable {tables : Tables} {catalog : Catalog}

/-- The tables without producers show the catalog without producers. -/
theorem mirrors_empty : empty.Mirrors .empty where
  byName := rfl
  names _ := rfl
  endpoints _ _ := rfl
  types _ _ := rfl
  bodies _ _ := rfl
  bodyCount := rfl

/-- The names in the table after a response slot is added. -/
theorem namesOf_addResponse (slot : Slot) (form : String) :
    (tables.addResponse slot).namesOf form =
      if form = Naming.normalized slot.name then
        (((tables.namesByForm.get? form).getD .empty).insert slot.name ()).keys
      else tables.namesOf form := by
  rw [namesOf, addResponse, SortedEntries.get?_alter]
  split
  · rename_i same
    rw [same, Option.getD_some]
  · rfl

/-- The name of a response slot that is added to both is among the names in both. -/
theorem Mirrors.names_addResponse (mirrors : tables.Mirrors catalog) (slot : Slot)
    (form : String) : (tables.addResponse slot).namesOf form =
      (catalog.addResponse slot).responses.keys.filter (Naming.normalized · == form) := by
  -- Both lists ascend, so it is enough that they have the same members.
  refine eq_of_ascending (SortedEntries.keys_ascending _)
    ((SortedEntries.keys_ascending _).filter _) fun name => ?_
  have before : name ∈ tables.namesOf form ↔
      name ∈ catalog.responses.keys ∧ Naming.normalized name = form := by
    rw [mirrors.names, List.mem_filter, beq_iff_eq]
  rw [namesOf_addResponse, List.mem_filter, beq_iff_eq, Catalog.addResponse, SortedEntries.push,
    SortedEntries.mem_keys_alter]
  split
  · rename_i same
    rw [SortedEntries.insert, SortedEntries.mem_keys_alter]
    rw [namesOf] at before
    rw [before]
    constructor
    · rintro (rfl | ⟨there, formed⟩)
      · exact ⟨.inl rfl, same.symm⟩
      · exact ⟨.inr there, formed⟩
    · rintro ⟨rfl | there, formed⟩
      · exact .inl rfl
      · exact .inr ⟨there, formed⟩
  · rename_i different
    rw [before]
    constructor
    · rintro ⟨there, formed⟩
      exact ⟨.inr there, formed⟩
    · rintro ⟨rfl | there, formed⟩
      · exact absurd formed.symm different
      · exact ⟨there, formed⟩

/-- A slot that is added under its name passes a test where it does. -/
theorem filter_added (slot : Slot) (name : String) (test : Slot → Bool) :
    (if name = slot.name then [slot] else []).filter test =
      if name = slot.name ∧ test slot = true then [slot] else [] := by
  by_cases called : name = slot.name
  · cases passed : test slot <;> simp [called, passed]
  · simp [called]

/-- A response slot is in the table of types once under each candidate of its type. -/
theorem Mirrors.types_addResponse (mirrors : tables.Mirrors catalog) (slot : Slot)
    (name type : String) : (tables.addResponse slot).byType.bucket (name, type) =
      (catalog.addResponse slot).ofType name type := by
  have distinct : (slot.candidateTypeNames.map (slot.name, ·)).Nodup := by
    refine List.Nodup.map (fun left right same => (Prod.mk.inj same).2) ?_
    exact slot.nodup_candidateTypeNames
  have listed : (name, type) ∈ slot.candidateTypeNames.map (slot.name, ·) ↔
      name = slot.name ∧ type ∈ slot.candidateTypeNames := by
    simp [eq_comm, and_comm]
  rw [addResponse, Shelves.bucket_foldl_put distinct, mirrors.types, Catalog.ofType,
    Catalog.ofType, Catalog.named_addResponse, List.filter_append, filter_added]
  simp only [listed, List.contains_iff_mem]

/-- Tables show a catalog after the same response slot is added to both. -/
theorem Mirrors.addResponse (mirrors : tables.Mirrors catalog) (slot : Slot) :
    (tables.addResponse slot).Mirrors (catalog.addResponse slot) where
  byName := congrArg (·.push slot.name slot) mirrors.byName
  names := mirrors.names_addResponse slot
  endpoints name endpoint := by
    rw [Tables.addResponse, Shelves.bucket_put, mirrors.endpoints, Catalog.named_addResponse,
      List.filter_append, filter_added]
    simp only [Prod.mk.injEq, beq_iff_eq, @eq_comm _ endpoint]
  types := mirrors.types_addResponse slot
  bodies := mirrors.bodies
  bodyCount := mirrors.bodyCount

/-- Tables show a catalog after the same body slot is added to both. -/
theorem Mirrors.addSibling (mirrors : tables.Mirrors catalog) (slot : Slot) :
    (tables.addSibling slot).Mirrors (catalog.addSibling slot) where
  byName := mirrors.byName
  names := mirrors.names
  endpoints := mirrors.endpoints
  types := mirrors.types
  bodies name request := by
    rw [Tables.addSibling, Shelves.bucket_put, mirrors.bodies, Catalog.siblingsOf,
      Catalog.siblingsOf, Catalog.addSibling, SortedEntries.bucket_push, List.filter_append,
      filter_added]
    simp only [Prod.mk.injEq, beq_iff_eq, @eq_comm _ request]
  bodyCount := by
    rw [Tables.addSibling, Shelves.count_put, mirrors.bodyCount, Catalog.siblingCount,
      Catalog.siblingCount, Catalog.addSibling, SortedEntries.length_allValues_push]

/-- Tables show a catalog after the same registrations. -/
theorem Mirrors.register (mirrors : tables.Mirrors catalog) (registrations : List Registration) :
    (registrations.foldl Tables.register tables).Mirrors
      (registrations.foldl Catalog.register catalog) := by
  induction registrations generalizing tables catalog with
  | nil => exact mirrors
  | cons registration rest ih =>
    cases registration with
    | response slot => exact ih (mirrors.addResponse slot)
    | sibling slot => exact ih (mirrors.addSibling slot)

/-- Similar names are the same in tables and in the catalog that they show. -/
theorem Mirrors.similarNames (mirrors : tables.Mirrors catalog) (name : String) :
    tables.similarNames name = catalog.similarNames name := by
  rw [Tables.similarNames, mirrors.names, List.filter_filter]
  rfl

/-- What is looked up in tables is what the catalog that they show answers. -/
theorem Mirrors.lookups (mirrors : tables.Mirrors catalog) :
    tables.lookups = catalog.lookups := by
  have named : tables.byName.bucket = catalog.named := by
    rw [mirrors.byName]
    rfl
  unfold Tables.lookups Catalog.lookups
  rw [Lookups.mk.injEq]
  refine ⟨named, ?_, ?_, ?_, ?_, ?_, ?_, mirrors.bodyCount⟩
  · funext name
    rw [named, mirrors.similarNames, Catalog.matching]
  · funext name endpoint methods
    rw [mirrors.endpoints, List.filter_filter, Catalog.atEndpoint]
    refine List.filter_congr fun slot _ => ?_
    exact Bool.and_comm _ _
  · funext name type
    exact mirrors.types name type
  · funext name type
    simp only [mirrors.types, mirrors.similarNames, Catalog.ofTypeMatching]
  · funext name request
    exact mirrors.bodies name request
  · rw [mirrors.byName, Catalog.responseCount]

/-- Whatever is registered in tables in whatever order, what is looked up in them is the part of the
registered slots that it stands for, in the order of registration and with no slot more or less
often than it was registered; and a catalog answers the same. -/
theorem lookups_of_registrations (registrations : List Registration) :
    (ofRegistrations registrations).lookups.Describe (Registration.responses registrations)
        (Registration.siblings registrations) ∧
      (Catalog.ofRegistrations registrations).lookups =
        (ofRegistrations registrations).lookups := by
  have mirrors : (ofRegistrations registrations).Mirrors (.ofRegistrations registrations) :=
    mirrors_empty.register registrations
  refine ⟨?_, mirrors.lookups.symm⟩
  rw [mirrors.lookups, Catalog.ofRegistrations_eq_ofLists]
  exact Catalog.lookups_ofLists _ _

end Tables

end ApiWiring
