import ApiWiring.Proofs.Dictionary.Merging
import ApiWiring.Proofs.Grammar.Renewal

/-!
# Resolving again

A resolved parameter resolves to itself. What took the place of a subtree has its path, so the same
producer takes over there again and sends the same; an object has become a leaf that keeps its name
and its flags, and an array has exactly the one item that a producer asks for. A node keeps its name
whatever takes its place, so the paths of the nodes around it are what they were. Everything that the
parameter sends from the dictionary was registered the first time, so the dictionary stays as well.
-/
namespace ApiWiring.Resolution

variable {source : Source} {root : AccessPath}

/-- What takes the place of a subtree is no unfit array. -/
theorem not_isUnfitArray_replacement (payload : Payload) (below : PropertyTree) :
    ¬IsUnfitArray (replacement payload below) := by
  cases below with
  | leaf property => exact id
  | inner property children =>
    cases shaped : property.shape with
    | array =>
      simp only [replacement, shaped]
      exact fun unfit => unfit.2 rfl
    | object | property =>
      simp only [replacement, shaped]
      exact id

/-- A payload that took the place of a subtree takes its own place. -/
theorem replacement_replacement (payload : Payload) (below : PropertyTree) :
    replacement payload (replacement payload below) = replacement payload below := by
  cases below with
  | leaf property => rfl
  | inner property children =>
    cases shaped : property.shape <;> simp [replacement, shaped]

/-- A tree that was resolved where its root has a producer resolves to itself. -/
theorem tree_again_of_supplied {before after : PropertyTree} {producer : Producer}
    (present : source.producer? root = some producer)
    (resolved : tree source root before = .ok after) : tree source root after = .ok after := by
  obtain ⟨_, payload, sent, rfl⟩ := (tree_of_supplied present after).mp resolved
  refine (tree_of_supplied present _).mpr ⟨not_isUnfitArray_replacement payload before, ?_⟩
  exact ⟨payload, sent, (replacement_replacement payload before).symm⟩

/-- A resolved tree resolves to itself. -/
theorem tree_again {before after : PropertyTree} (resolved : tree source root before = .ok after) :
    tree source root after = .ok after := by
  induction before using PropertyTree.induction generalizing root after with
  | leaf property =>
    cases present : source.producer? root with
    | some producer => exact tree_again_of_supplied present resolved
    | none =>
      have same := resolved
      simp only [tree, present, Except.ok.injEq] at same
      rwa [same] at resolved
  | inner property children ih =>
    cases present : source.producer? root with
    | some producer => exact tree_again_of_supplied present resolved
    | none =>
      simp only [tree, present] at resolved
      obtain ⟨results, each, built⟩ := Outcome.bind_eq_ok_iff.mp resolved
      cases built
      rw [trees_eq_mapM, Outcome.mapM_eq_ok_iff] at each
      -- A resolved child is at the path of the child given, since it has its name.
      have settled : ∀ result ∈ results,
          tree source (root.child (property.component result.name)) result = .ok result := by
        intro result listed
        obtain ⟨child, member, made⟩ := Outcome.exists_member_of_forall₂ each listed
        rw [name_of_tree made]
        exact ih child member made
      have again : trees source root property results = .ok results := by
        rw [trees_eq_mapM, Outcome.mapM_eq_ok_iff]
        exact List.forall₂_same.mpr settled
      simp only [tree, present]
      exact Outcome.bind_eq_ok_iff.mpr ⟨results, again, rfl⟩

/-- A resolved parameter resolves to itself. -/
theorem parameter_again {given resolved : Parameter}
    (done : parameter source given = .ok resolved) : parameter source resolved = .ok resolved := by
  obtain ⟨payload, made, built⟩ := Outcome.bind_eq_ok_iff.mp done
  cases built
  exact Outcome.bind_eq_ok_iff.mpr ⟨payload, tree_again made, rfl⟩

/-- Resolution a second time changes nothing: a parameter that was resolved resolves to itself, from
the same wiring and the same path of the request, and the dictionary stays as the first time left
it. -/
theorem attempt_again {dictionary after : Dictionary} {given resolved : Parameter}
    (done : attempt source dictionary given = (.ok resolved, after)) :
    attempt source after resolved = (.ok resolved, after) := by
  unfold attempt at done
  split at done
  · rename_i made resolution
    obtain ⟨same, kept⟩ := Prod.mk.inj done
    obtain rfl : made = resolved := Except.ok.inj same
    rw [attempt, parameter_again resolution, ← kept]
    exact congrArg _ (Dictionary.registerAll_registerAll dictionary made.payload.customPayloads)
  · cases done

/-! ## A gateway -/

/-- The request that creates a gateway. -/
def gatewayRequest : RequestId := ⟨"/gateways", .post⟩

/-- A property of the body that creates a gateway. -/
def gatewaySlot (name : String) (path : List String) : Slot :=
  ⟨gatewayRequest, name, .body ⟨path⟩, none, .string⟩

/-- The subnet of a gateway is an entry of the dictionary, its tags are read from a response, and
the identity of its owner is the address of the owner that the body names. -/
def gatewaySource : Source where
  wiring := ((Wiring.empty.add
    ⟨.plain (gatewaySlot "subnet" ["subnet"]) .body,
      some (.dictionary ⟨.string, .string, "subnet", true⟩)⟩).add
    ⟨.plain (gatewaySlot "tags" ["tags"]) .body,
      some (.response ⟨⟨"/tags", .post⟩, "id", .body ⟨["id"]⟩, none, .string⟩)⟩).add
    ⟨.plain (gatewaySlot "id" ["owner", "id"]) .body,
      some (.sibling (gatewaySlot "name" ["owner", "name"]))⟩
  request := gatewayRequest
  kind := .body
  requestPath := some [.text "/", .text "gateways"]

/-- A body with a subnet, tags and an owner of this identity. -/
def gatewayBody (subnet : PropertyTree) (tag identity : Payload) : Parameter :=
  ⟨"b", .inner ⟨"", none, .object, true, false⟩
    [subnet, .inner ⟨"tags", some (.text "tags"), .array, true, false⟩ [.leaf (.plain "" tag)],
      .inner ⟨"owner", none, .object, true, false⟩
        [.leaf (.plain "name" (.ofType .string)), .leaf (.plain "id" identity)]]⟩

/-- The body as it is declared. -/
def declaredGateway : Parameter :=
  gatewayBody (.inner ⟨"subnet", none, .object, false, true⟩
    [.leaf (.plain "prefix" (.ofType .string))]) (.ofType .string) (.ofType .string)

/-- The body with every value taken from its producer. -/
def resolvedGateway : Parameter :=
  gatewayBody (.leaf ⟨"subnet", .custom ⟨.string, .string, "subnet", true⟩, false, true⟩)
    (.dynamic ⟨"_tags_post_id", .string⟩)
    (.parts [.text "/", .text "gateways", .text "/owner/", .custom (.uniqueName "owner_name")])

/-- The subnet, the tags and the identity are taken from their producers; resolved once more, the
body is the same, and so is the dictionary. -/
theorem declaredGateway_attempt_again :
    ∃ after, attempt gatewaySource .empty declaredGateway = (.ok resolvedGateway, after) ∧
      after.size = 2 ∧
      attempt gatewaySource after resolvedGateway = (.ok resolvedGateway, after) := by
  have done : attempt gatewaySource .empty declaredGateway =
      (.ok resolvedGateway, Dictionary.empty.registerAll
        resolvedGateway.payload.customPayloads) := by
    rfl
  exact ⟨_, done, by decide +kernel, attempt_again done⟩

end ApiWiring.Resolution
