import ApiWiring.Proofs.Keyed.Keys
import ApiWiring.Proofs.Wiring.FirstRegistered

/-!
# What is looked up after registrations

Slots of responses and slots of bodies are registered in any order. What a catalog answers depends
on the two lists of what was registered only, and every look-up is a part of one of them, in the
order of registration (`Lookups.Describe`): those of a name; of these, those at an endpoint or those
of a type; and for names that differ in casing style only, the slots of the name itself and then
those of each other name in ascending order, which together are all slots whose names are alike.
-/
namespace ApiWiring

/-- What is registered in a catalog. -/
inductive Registration where
  /-- A slot of a response. -/
  | response (slot : Slot)
  /-- A slot of a body that may supply others of its body. -/
  | sibling (slot : Slot)
deriving DecidableEq, Repr, Inhabited

namespace Registration

/-- The slot of a response that is registered, if it is one. -/
def response? : Registration → Option Slot
  | .response slot => some slot
  | .sibling _ => none

/-- The slot of a body that is registered, if it is one. -/
def sibling? : Registration → Option Slot
  | .response _ => none
  | .sibling slot => some slot

/-- The slots of responses among registrations, in their order. -/
def responses (registrations : List Registration) : List Slot :=
  registrations.filterMap response?

/-- The slots of bodies among registrations, in their order. -/
def siblings (registrations : List Registration) : List Slot :=
  registrations.filterMap sibling?

/-- A response slot is registered when its registration is there. -/
theorem mem_responses_iff {registrations : List Registration} {slot : Slot} :
    slot ∈ responses registrations ↔ .response slot ∈ registrations := by
  rw [responses, List.mem_filterMap]
  constructor
  · rintro ⟨registration, member, found⟩
    cases registration with
    | response other =>
      cases found
      exact member
    | sibling other => cases found
  · intro member
    exact ⟨_, member, rfl⟩

end Registration

/-- Whether names are those of some slots that differ from a name in casing style only, in
ascending order. -/
structure SimilarNames (slots : List Slot) (name : String) (others : List String) : Prop where
  /-- The names ascend. -/
  ascending : others.Pairwise (· < ·)
  /-- They are the other names of slots that differ in casing style only. -/
  mem_iff : ∀ other, other ∈ others ↔
    other ≠ name ∧ Naming.normalized other = Naming.normalized name ∧
      ∃ slot ∈ slots, slot.name = other

/-- What can be looked up. -/
structure Lookups where
  /-- The response slots of a name. -/
  named : String → List Slot
  /-- The response slots of a name, then those of similar names. -/
  matching : String → List Slot
  /-- The response slots of a name in requests to an endpoint by one of some methods. -/
  atEndpoint : String → String → List Method → List Slot
  /-- The response slots of a name with a type name among their candidates. -/
  ofType : String → String → List Slot
  /-- The response slots of a name with a type name, then those of similar names. -/
  ofTypeMatching : String → String → List Slot
  /-- The body slots of a name in a request. -/
  siblingsOf : String → RequestId → List Slot
  /-- The number of response slots. -/
  responseCount : Nat
  /-- The number of body slots. -/
  siblingCount : Nat

/-- Whether look-ups answer with the parts of two lists that they stand for. -/
structure Lookups.Describe (lookups : Lookups) (responses siblings : List Slot) : Prop where
  /-- A name has its slots. -/
  named : ∀ name, lookups.named name = responses.filter (·.name == name)
  /-- A name has its slots at an endpoint. -/
  atEndpoint : ∀ name endpoint methods, lookups.atEndpoint name endpoint methods =
    responses.filter fun slot => slot.name == name && slot.request.endpoint == endpoint &&
      methods.contains slot.request.method
  /-- A name has its slots of a type. -/
  ofType : ∀ name type, lookups.ofType name type =
    responses.filter fun slot => slot.name == name && slot.candidateTypeNames.contains type
  /-- A name has its slots in a body. -/
  siblingsOf : ∀ name request, lookups.siblingsOf name request =
    siblings.filter fun slot => slot.name == name && slot.request == request
  /-- The slots of similar names are behind those of the name, by ascending names. -/
  similar : ∀ name, ∃ others, SimilarNames responses name others ∧
    lookups.matching name = lookups.named name ++ others.flatMap lookups.named ∧
      ∀ type, lookups.ofTypeMatching name type =
        lookups.ofType name type ++ others.flatMap (lookups.ofType · type)
  /-- They are all slots of names that are alike, each as often as it was registered. -/
  matching_perm : ∀ name, (lookups.matching name).Perm <|
    responses.filter (Naming.normalized ·.name == Naming.normalized name)
  /-- Those of a type are all slots of the type with names that are alike. -/
  ofTypeMatching_perm : ∀ name type, (lookups.ofTypeMatching name type).Perm <|
    responses.filter fun slot => Naming.normalized slot.name == Naming.normalized name &&
      slot.candidateTypeNames.contains type
  /-- All response slots are counted. -/
  responseCount : lookups.responseCount = responses.length
  /-- All body slots are counted. -/
  siblingCount : lookups.siblingCount = siblings.length

namespace Catalog

/-- The catalog with one more registration. -/
def register (catalog : Catalog) : Registration → Catalog
  | .response slot => catalog.addResponse slot
  | .sibling slot => catalog.addSibling slot

/-- The catalog of registrations in turn. -/
def ofRegistrations (registrations : List Registration) : Catalog :=
  registrations.foldl register empty

/-- What a catalog answers. -/
def lookups (catalog : Catalog) : Lookups where
  named := catalog.named
  matching := catalog.matching
  atEndpoint := catalog.atEndpoint
  ofType := catalog.ofType
  ofTypeMatching := catalog.ofTypeMatching
  siblingsOf := catalog.siblingsOf
  responseCount := catalog.responseCount
  siblingCount := catalog.siblingCount

/-! ## The order of registrations -/

/-- Response slots are registered apart from body slots. -/
theorem responses_foldl_register (registrations : List Registration) (catalog : Catalog) :
    (registrations.foldl register catalog).responses =
      (Registration.responses registrations).foldl
        (fun entries slot => entries.push slot.name slot) catalog.responses := by
  induction registrations generalizing catalog with
  | nil => rfl
  | cons registration rest ih =>
    rw [List.foldl_cons, ih]
    cases registration <;> rfl

/-- Body slots are registered apart from response slots. -/
theorem siblings_foldl_register (registrations : List Registration) (catalog : Catalog) :
    (registrations.foldl register catalog).siblings =
      (Registration.siblings registrations).foldl
        (fun entries slot => entries.push slot.name slot) catalog.siblings := by
  induction registrations generalizing catalog with
  | nil => rfl
  | cons registration rest ih =>
    rw [List.foldl_cons, ih]
    cases registration <;> rfl

/-- It does not matter how registrations of the two kinds take turns. -/
theorem ofRegistrations_eq_ofLists (registrations : List Registration) :
    ofRegistrations registrations =
      ofLists (Registration.responses registrations) (Registration.siblings registrations) := by
  have responses : (ofRegistrations registrations).responses =
      (ofLists (Registration.responses registrations)
        (Registration.siblings registrations)).responses := by
    rw [responses_ofLists]
    exact responses_foldl_register registrations empty
  have siblings : (ofRegistrations registrations).siblings =
      (ofLists (Registration.responses registrations)
        (Registration.siblings registrations)).siblings := by
    rw [siblings_ofLists]
    exact siblings_foldl_register registrations empty
  calc ofRegistrations registrations
      = ⟨(ofRegistrations registrations).responses,
          (ofRegistrations registrations).siblings⟩ := rfl
    _ = _ := by rw [responses, siblings]

/-! ## Look-ups -/

variable (responses siblings : List Slot) (name : String)

/-- The names of a catalog are those of its slots. -/
theorem mem_keys_ofLists {responses siblings : List Slot} {name : String} :
    name ∈ (ofLists responses siblings).responses.keys ↔ ∃ slot ∈ responses, slot.name = name := by
  rw [responses_ofLists, SortedEntries.mem_keys_foldl_push]
  simp [SortedEntries.keys, SortedEntries.empty]

/-- The similar names of a catalog are those of its slots. -/
theorem similarNames_ofLists :
    SimilarNames responses name ((ofLists responses siblings).similarNames name) := by
  unfold similarNames
  constructor
  · exact (SortedEntries.keys_ascending _).filter _
  · intro other
    rw [List.mem_filter, mem_keys_ofLists, Bool.and_eq_true, bne_iff_ne, beq_iff_eq, and_comm,
      and_assoc]

/-- The response slots of a name at an endpoint are those registered, in their order. -/
theorem atEndpoint_ofLists (endpoint : String) (methods : List Method) :
    (ofLists responses siblings).atEndpoint name endpoint methods =
      responses.filter fun slot => slot.name == name && slot.request.endpoint == endpoint &&
        methods.contains slot.request.method := by
  rw [atEndpoint, named_ofLists, List.filter_filter]
  refine List.filter_congr fun slot _ => ?_
  ac_rfl

/-- The response slots of a name with a type are those registered, in their order. -/
theorem ofType_ofLists (type : String) :
    (ofLists responses siblings).ofType name type =
      responses.filter fun slot => slot.name == name && slot.candidateTypeNames.contains type := by
  rw [ofType, named_ofLists, List.filter_filter]
  refine List.filter_congr fun slot _ => ?_
  ac_rfl

/-- The response slots of similar names are those registered whose names are alike. -/
theorem matching_ofLists_perm :
    ((ofLists responses siblings).matching name).Perm
      (responses.filter (Naming.normalized ·.name == Naming.normalized name)) := by
  let others := (ofLists responses siblings).similarNames name
  have similar : SimilarNames responses name others := similarNames_ofLists responses siblings name
  have distinct : (name :: others).Nodup :=
    List.nodup_cons.mpr ⟨fun member => ((similar.mem_iff name).mp member).1 rfl,
      similar.ascending.imp ne_of_lt⟩
  have listed : (ofLists responses siblings).matching name =
      (name :: others).flatMap fun text => responses.filter (·.name == text) := by
    rw [List.flatMap_cons, matching]
    simp only [funext (named_ofLists responses siblings), others]
  have alike : (responses.filter fun slot => decide (slot.name ∈ name :: others)) =
      responses.filter (Naming.normalized ·.name == Naming.normalized name) := by
    refine List.filter_congr fun slot member => ?_
    have called : ∃ other ∈ responses, other.name = slot.name := ⟨slot, member, rfl⟩
    rw [Bool.eq_iff_iff, decide_eq_true_eq, beq_iff_eq, List.mem_cons, similar.mem_iff]
    by_cases same : slot.name = name
    · simp [same]
    · simp [same, called]
  rw [listed, ← alike]
  exact flatMap_filter_perm (·.name) responses distinct

/-- A slot is among those of similar names when it was registered and its name is alike. -/
theorem mem_matching_ofLists {responses siblings : List Slot} {name : String} {slot : Slot} :
    slot ∈ (ofLists responses siblings).matching name ↔
      slot ∈ responses ∧ Naming.normalized slot.name = Naming.normalized name := by
  rw [(matching_ofLists_perm responses siblings name).mem_iff, List.mem_filter, beq_iff_eq]

/-- The slots of similar names with a type are the slots of similar names, of which those with the
type are taken. -/
theorem ofTypeMatching_eq_filter (catalog : Catalog) (type : String) :
    catalog.ofTypeMatching name type =
      (catalog.matching name).filter fun slot => slot.candidateTypeNames.contains type := by
  rw [ofTypeMatching, matching, List.filter_append, List.filter_flatMap]
  rfl

/-- Look-ups in a catalog answer with the parts of the two lists that they stand for. -/
theorem lookups_ofLists :
    (ofLists responses siblings).lookups.Describe responses siblings := by
  generalize built : ofLists responses siblings = catalog
  constructor
  case named =>
    intro name
    rw [← built]
    exact named_ofLists responses siblings name
  case atEndpoint =>
    intro name endpoint methods
    rw [← built]
    exact atEndpoint_ofLists responses siblings name endpoint methods
  case ofType =>
    intro name type
    rw [← built]
    exact ofType_ofLists responses siblings name type
  case siblingsOf =>
    intro name request
    refine (congrArg (siblingsOf · name request) built.symm).trans ?_
    rw [siblingsOf_ofLists, List.filter_filter]
    refine List.filter_congr fun slot _ => ?_
    ac_rfl
  case similar =>
    intro name
    refine ⟨catalog.similarNames name, ?_, rfl, fun _ => rfl⟩
    rw [← built]
    exact similarNames_ofLists responses siblings name
  case matching_perm =>
    intro name
    rw [← built]
    exact matching_ofLists_perm responses siblings name
  case ofTypeMatching_perm =>
    intro name type
    have kept := (matching_ofLists_perm responses siblings name).filter
      fun slot => slot.candidateTypeNames.contains type
    rw [built, ← ofTypeMatching_eq_filter, List.filter_filter] at kept
    refine kept.trans (.of_eq (List.filter_congr fun slot _ => ?_))
    exact Bool.and_comm _ _
  case responseCount =>
    have counted : catalog.responseCount = responses.length := by
      rw [responseCount, ← built, responses_ofLists, SortedEntries.length_allValues_foldl_push]
      exact Nat.zero_add _
    exact counted
  case siblingCount =>
    have counted : catalog.siblingCount = siblings.length := by
      rw [siblingCount, ← built, siblings_ofLists, SortedEntries.length_allValues_foldl_push]
      exact Nat.zero_add _
    exact counted

/-! ## What is found -/

variable {registrations : List Registration} {name : String} {slot : Slot}

/-- A slot is found at an endpoint when it was registered with the name, the endpoint and one of the
methods. -/
theorem mem_atEndpoint_iff {endpoint : String} {methods : List Method} :
    slot ∈ (ofRegistrations registrations).atEndpoint name endpoint methods ↔
      .response slot ∈ registrations ∧ slot.name = name ∧ slot.request.endpoint = endpoint ∧
        slot.request.method ∈ methods := by
  rw [ofRegistrations_eq_ofLists, atEndpoint_ofLists, List.mem_filter,
    Registration.mem_responses_iff, Bool.and_eq_true, Bool.and_eq_true, beq_iff_eq, beq_iff_eq,
    List.contains_iff_mem, and_assoc]

/-- A slot is found under a type when it was registered with the name and has the type among its
candidates. -/
theorem mem_ofType_iff {type : String} :
    slot ∈ (ofRegistrations registrations).ofType name type ↔
      .response slot ∈ registrations ∧ slot.name = name ∧ type ∈ slot.candidateTypeNames := by
  rw [ofRegistrations_eq_ofLists, ofType_ofLists, List.mem_filter,
    Registration.mem_responses_iff, Bool.and_eq_true, beq_iff_eq, List.contains_iff_mem]

/-- A slot is found among those of similar names when it was registered with a name that is alike.
-/
theorem mem_matching_iff :
    slot ∈ (ofRegistrations registrations).matching name ↔
      .response slot ∈ registrations ∧ Naming.normalized slot.name = Naming.normalized name := by
  rw [ofRegistrations_eq_ofLists, mem_matching_ofLists, Registration.mem_responses_iff]

end Catalog

/-- The inference from registered producers. -/
def Inference.ofRegistrations (registrations : List Registration) (allowGet : Bool) : Inference :=
  ⟨.ofRegistrations registrations, allowGet⟩

end ApiWiring
