import ApiWiring.Proofs.Grammar.Substitution

/-!
# Producers in the shadow

What an inner node sends of its own stands for its whole subtree. So a producer below such a node is
never read, though its payload is in the tree. Resolution takes what a node sends of its own away
only with the node itself: an object that a producer supplies becomes a leaf, while an array that a
producer supplies and every node above a value that a producer supplies keep theirs.
-/
namespace ApiWiring

/-- Whether the node at a position of a tree is an inner one and sends this payload instead of what
is below it. -/
def PropertyTree.Overrides (tree : PropertyTree) (position : List Nat) (shadow : Payload) : Prop :=
  ∃ property children, tree.subtree? position = some (.inner property children) ∧
    property.override = some shadow

/-- What the node at a position sends instead of what is below it does not depend on what is
below. -/
theorem PropertyTree.overrides_congr {left right : PropertyTree} {position : List Nat}
    (same : (left.subtree? position).map node = (right.subtree? position).map node)
    (shadow : Payload) : left.Overrides position shadow ↔ right.Overrides position shadow := by
  have overrides : ∀ tree : PropertyTree, tree.Overrides position shadow ↔
      ∃ property count, (tree.subtree? position).map node = some (.inner property count) ∧
        property.override = some shadow := by
    intro tree
    constructor
    · rintro ⟨property, children, found, sends⟩
      exact ⟨property, children.length, by rw [found]; rfl, sends⟩
    · rintro ⟨property, count, found, sends⟩
      obtain ⟨below, inside, shaped⟩ := Option.map_eq_some_iff.mp found
      cases below with
      | leaf other => cases shaped
      | inner other children =>
        cases shaped
        exact ⟨property, children, inside, sends⟩
  rw [overrides left, overrides right, same]

namespace Resolution

variable {source : Source} {root : AccessPath} {before after : PropertyTree}
  {position target : List Nat} {shadow : Payload}

/-- Whether a node is on the way from the root to a value that a producer supplies: it is the node
where the producer takes over, or above it. -/
def OnTheWay (source : Source) (root : AccessPath) (before : PropertyTree) (position : List Nat) :
    Prop :=
  ∃ target, SuppliedFirst source root before target ∧ position <+: target

/-- A node above the one where a producer takes over is untouched. -/
theorem untouched_of_above (first : SuppliedFirst source root before target)
    (leading : position <+: target) (different : position ≠ target) :
    Untouched source root before position := by
  intro above upper
  refine first.2 above (upper.trans leading) ?_
  rintro rfl
  exact different (leading.eq_of_length_le upper.length_le)

/-- What takes the place of an array overrides what the array overrode; nothing else that takes the
place of a subtree overrides anything. -/
theorem overrides_replacement_iff {below : PropertyTree} {payload : Payload} :
    (replacement payload below).Overrides [] shadow ↔ ∃ property children,
      below = .inner property children ∧ property.shape = .array ∧
        property.override = some shadow := by
  cases below with
  | leaf property => simp [PropertyTree.Overrides, replacement]
  | inner property children =>
    cases shaped : property.shape <;>
      simp [PropertyTree.Overrides, replacement, shaped]

/-- Where a producer takes over, a resolved tree overrides what an array there overrode. -/
theorem overrides_of_suppliedFirst (whole : Substituted source root before after)
    (first : SuppliedFirst source root before position) :
    after.Overrides position shadow ↔ ∃ property children,
      before.subtree? position = some (.inner property children) ∧ property.shape = .array ∧
        property.override = some shadow := by
  obtain ⟨below, found⟩ := Option.isSome_iff_exists.mp first.1.1
  obtain ⟨_, payload, _, _, made⟩ := whole.replaced position below found first
  have atRoot : after.Overrides position shadow ↔
      (replacement payload below).Overrides [] shadow := by
    simp only [PropertyTree.Overrides, made, PropertyTree.subtree?_nil]
  rw [atRoot, overrides_replacement_iff, found]
  simp only [Option.some.injEq]

/-- On the way to the values that producers supply, a resolved parameter overrides exactly what the
parameter given did, save that a node which is no array loses its own payload where a producer takes
over. -/
theorem overrides_iff {given made : Parameter} (resolved : parameter source given = .ok made)
    (onTheWay : OnTheWay source (rootOf source.kind given.name) given.payload position) :
    made.payload.Overrides position shadow ↔ ∃ property children,
      given.payload.subtree? position = some (.inner property children) ∧
        property.override = some shadow ∧
          (SuppliedFirst source (rootOf source.kind given.name) given.payload position →
            property.shape = .array) := by
  obtain ⟨payload, done, built⟩ := Outcome.bind_eq_ok_iff.mp resolved
  cases built
  have whole := substituted_of_tree done
  obtain ⟨target, first, leading⟩ := onTheWay
  by_cases here : position = target
  · subst here
    rw [overrides_of_suppliedFirst whole first]
    simp only [first, true_implies, and_comm (a := _ = some shadow)]
  · have free := untouched_of_above first leading here
    have unsupplied :
        ¬SuppliedFirst source (rootOf source.kind given.name) given.payload position :=
      fun own => free position List.prefix_rfl own.1
    rw [PropertyTree.overrides_congr (whole.untouched position free)]
    simp only [unsupplied, false_implies, and_true, PropertyTree.Overrides]

/-! ## Items with tags -/

/-- Whether every value that a producer supplies is read from it: no node on the way to one sends
something else instead of what is below it. -/
def ReadsProducers (source : Source) (given : Parameter) : Prop :=
  ∀ made, parameter source given = .ok made → ∀ position,
    OnTheWay source (rootOf source.kind given.name) given.payload position →
      ∀ shadow, ¬made.payload.Overrides position shadow

/-- The identity in the response that creates a tag. -/
def tagSlot : Slot := ⟨⟨"/tags", .post⟩, "id", .body ⟨["id"]⟩, none, .string⟩

/-- The tags of an item, in the body that creates it. -/
def tagsConsumer : Consumer :=
  .plain ⟨⟨"/items", .post⟩, "tags", .body ⟨["tags"]⟩, none, .object⟩ .body

/-- The tags of an item are supplied by the identity of a tag. -/
def itemsSource : Source :=
  ⟨Wiring.empty.add ⟨tagsConsumer, some (.response tagSlot)⟩, ⟨"/items", .post⟩, .body,
    some [.text "/", .text "items"]⟩

/-- A body with an array of tags, both with an example of their own around one payload. -/
def itemsBody (payload : Payload) : Parameter :=
  ⟨"b", .inner ⟨"", some (.text "item"), .object, true, false⟩
    [.inner ⟨"tags", some (.text "tags"), .array, true, false⟩ [.leaf (.plain "" payload)]]⟩

/-- Resolution puts the identity of a tag below the array, where the producer of the tags takes
over. -/
theorem resolved_itemsBody :
    parameter itemsSource (itemsBody (.ofType .string)) =
        .ok (itemsBody (.dynamic ⟨tagSlot.variableName, .string⟩)) ∧
      SuppliedFirst itemsSource .root (itemsBody (.ofType .string)).payload [0] := by
  have absent : itemsSource.producer? .root = none := by decide +kernel
  have present : itemsSource.producer? ⟨["tags"]⟩ = some (.response tagSlot) := by decide +kernel
  constructor
  · rfl
  · refine (suppliedFirst_cons absent rfl []).mpr (suppliedFirst_nil.mpr ?_)
    exact Option.isSome_of_eq_some present

/-- The array of tags keeps its own example, as it was given. -/
theorem itemsBody_overrides_iff :
    OnTheWay itemsSource .root (itemsBody (.ofType .string)).payload [0] ∧
      ((itemsBody (.dynamic ⟨tagSlot.variableName, .string⟩)).payload.Overrides [0]
          (.text "tags") ↔
        ∃ property children, (itemsBody (.ofType .string)).payload.subtree? [0] =
          some (.inner property children) ∧ property.override = some (.text "tags") ∧
            (SuppliedFirst itemsSource .root (itemsBody (.ofType .string)).payload [0] →
              property.shape = .array)) := by
  obtain ⟨resolved, first⟩ := resolved_itemsBody
  have onTheWay : OnTheWay itemsSource .root (itemsBody (.ofType .string)).payload [0] :=
    ⟨[0], first, List.prefix_rfl⟩
  exact ⟨onTheWay, overrides_iff resolved onTheWay⟩

/-- The example of the tags stands for the whole array, so the producer below is never read. -/
theorem not_readsProducers_itemsBody :
    ¬ReadsProducers itemsSource (itemsBody (.ofType .string)) := by
  intro reads
  obtain ⟨resolved, first⟩ := resolved_itemsBody
  exact reads _ resolved [0] ⟨[0], first, List.prefix_rfl⟩ (.text "tags") ⟨_, _, rfl, rfl⟩

end Resolution

end ApiWiring
