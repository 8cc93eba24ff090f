import ApiWiring.Proofs.Keyed.Buckets
import ApiWiring.Report.Manifest

/-!
# What the manifest lists

The manifest of a wiring has one line for each connection: pushing an entry adds its line, and
sorting the groups only moves lines. The lines come in the order of endpoints, methods and parameter
kinds, those of one group in the order of the consumers' texts (`Line.NotAfter`). A line says that
its consumer has a producer exactly when the connection does.
-/
namespace ApiWiring

namespace ManifestEntry

variable {connection : Connection}

/-- An entry is resolved when its connection has a producer. -/
theorem isResolved_ofConnection (connection : Connection) :
    (ofConnection connection).isResolved = connection.producer?.isSome := by
  rw [isResolved, ofConnection]
  cases connection.producer? with
  | none => rfl
  | some producer => cases producer <;> rfl

/-- An entry says that its consumer is supplied from its own body when it is. -/
theorem producerKind_ofConnection_eq_sameBody (connection : Connection) :
    ((ofConnection connection).producerKind == some .sameBody) =
      connection.producer?.any Producer.isSibling := by
  rw [ofConnection]
  cases connection.producer? with
  | none => rfl
  | some producer => cases producer <;> rfl

/-- Entries sorted by the consumers' texts come in their order. -/
theorem pairwise_mergeSort_notAfter (entries : List ManifestEntry) :
    (entries.mergeSort notAfter).Pairwise fun left right =>
      ¬right.consumerParam < left.consumerParam := by
  have order : ∀ left right : ManifestEntry,
      notAfter left right = true ↔ left.consumerParam ≤ right.consumerParam := by
    intro left right
    rw [notAfter, Bool.not_eq_true', decide_eq_false_iff_not, String.not_lt]
  have transitive : ∀ first second third : ManifestEntry,
      notAfter first second = true → notAfter second third = true →
        notAfter first third = true := by
    intro first second third early late
    rw [order] at early late ⊢
    exact String.le_trans early late
  have total : ∀ left right : ManifestEntry,
      (notAfter left right || notAfter right left) = true := by
    intro left right
    rw [Bool.or_eq_true, order, order]
    exact String.le_total _ _
  have sorted := List.pairwise_mergeSort transitive total entries
  exact sorted.imp fun ordered => String.not_lt.mpr ((order _ _).mp ordered)

end ManifestEntry

namespace Manifest

variable {endpoint method kind : String} {entry : ManifestEntry}

/-- The line of a connection. -/
def Line.ofConnection (connection : Connection) : Line where
  endpoint := connection.consumer.slot.request.endpoint
  method := label connection.consumer.slot.request.method
  kind := label connection.consumer.kind
  entry := .ofConnection connection

/-- Whether a line may stand before another one: its group comes first, or it is of the same group
and its consumer's text comes first or is the same. -/
def Line.NotAfter (left right : Line) : Prop :=
  left.endpoint < right.endpoint ∨ left.endpoint = right.endpoint ∧
    (left.method < right.method ∨ left.method = right.method ∧
      (left.kind < right.kind ∨ left.kind = right.kind ∧
        ¬right.entry.consumerParam < left.entry.consumerParam))

/-- Whether a manifest lists the connections of a wiring. -/
structure Lists (manifest : Manifest) (wiring : Wiring) : Prop where
  /-- It has one line for each connection. -/
  complete : manifest.lines.Perm (wiring.connections.map Line.ofConnection)
  /-- The lines are grouped, each group in the order of the consumers' texts. -/
  ordered : manifest.lines.Pairwise Line.NotAfter
  /-- The line of a connection says whether the consumer has a producer. -/
  resolved : ∀ connection ∈ wiring.connections,
    (Line.ofConnection connection).entry.isResolved = connection.producer?.isSome

/-- The lines of a group. -/
def linesOfKind (endpoint method kind : String) (entries : List ManifestEntry) : List Line :=
  entries.map (⟨endpoint, method, kind, ·⟩)

/-- The lines of the groups of a method. -/
def linesOfMethod (endpoint method : String) (kinds : SortedEntries (List ManifestEntry)) :
    List Line :=
  kinds.toList.flatMap fun group => linesOfKind endpoint method group.1 group.2

/-- The lines of the groups of an endpoint. -/
def linesOfEndpoint (endpoint : String)
    (methods : SortedEntries (SortedEntries (List ManifestEntry))) : List Line :=
  methods.toList.flatMap fun group => linesOfMethod endpoint group.1 group.2

/-- The lines of a manifest are those of its endpoints. -/
theorem lines_eq (manifest : Manifest) :
    manifest.lines =
      manifest.groups.toList.flatMap fun group => linesOfEndpoint group.1 group.2 :=
  rfl

/-! ## Lines up to the order -/

/-- Pushing an entry adds its line to those of the method. -/
theorem linesOfMethod_push (kinds : SortedEntries (List ManifestEntry)) :
    (linesOfMethod endpoint method (kinds.push kind entry)).Perm
      ([⟨endpoint, method, kind, entry⟩] ++ linesOfMethod endpoint method kinds) := by
  refine SortedEntries.flatMap_alter_gains _ _ _ _ ?_
  cases kinds.get? kind with
  | none => exact .refl _
  | some entries =>
    let line : Line := ⟨endpoint, method, kind, entry⟩
    have moved : (linesOfKind endpoint method kind entries ++ [line]).Perm
        ([line] ++ linesOfKind endpoint method kind entries) := List.perm_append_comm
    simpa only [linesOfKind, Option.getD_some, List.map_append, List.map_singleton,
      Option.elim_some] using moved

/-- Pushing an entry adds its line to those of the endpoint. -/
theorem linesOfEndpoint_alter (methods : SortedEntries (SortedEntries (List ManifestEntry))) :
    (linesOfEndpoint endpoint
        (methods.alter method fun kinds => (kinds.getD .empty).push kind entry)).Perm
      ([⟨endpoint, method, kind, entry⟩] ++ linesOfEndpoint endpoint methods) := by
  refine SortedEntries.flatMap_alter_gains _ _ _ _ ?_
  cases methods.get? method with
  | none => exact linesOfMethod_push .empty
  | some kinds => exact linesOfMethod_push kinds

/-- Pushing an entry adds its line. -/
theorem lines_push (manifest : Manifest) (endpoint method kind : String) (entry : ManifestEntry) :
    (manifest.push endpoint method kind entry).lines.Perm
      (⟨endpoint, method, kind, entry⟩ :: manifest.lines) := by
  have pushed : (manifest.push endpoint method kind entry).lines.Perm
      ([⟨endpoint, method, kind, entry⟩] ++ manifest.lines) := by
    refine SortedEntries.flatMap_alter_gains _ _ _ _ ?_
    cases manifest.groups.get? endpoint with
    | none => exact linesOfEndpoint_alter .empty
    | some methods => exact linesOfEndpoint_alter methods
  exact pushed

/-- The lines of a manifest with sorted groups. -/
theorem lines_sorted (manifest : Manifest) :
    manifest.sorted.lines = manifest.groups.toList.flatMap fun methods =>
      methods.2.toList.flatMap fun kinds => kinds.2.toList.flatMap fun group =>
        linesOfKind methods.1 kinds.1 group.1 (group.2.mergeSort ManifestEntry.notAfter) := by
  simp only [lines_eq, sorted, linesOfEndpoint, linesOfMethod, SortedEntries.mapValues,
    List.flatMap_map]

/-- Sorting the groups moves lines. -/
theorem lines_sorted_perm (manifest : Manifest) : manifest.sorted.lines.Perm manifest.lines := by
  rw [lines_sorted, lines_eq]
  refine List.Perm.flatMap_left _ fun methods _ => ?_
  refine List.Perm.flatMap_left _ fun kinds _ => ?_
  refine List.Perm.flatMap_left _ fun group _ => ?_
  exact (List.mergeSort_perm group.2 ManifestEntry.notAfter).map _

/-- Pushing the entries of connections in turn adds their lines. -/
theorem lines_foldl_push (connections : List Connection) (manifest : Manifest) :
    (connections.foldl
      (fun manifest connection =>
        let request := connection.consumer.slot.request
        manifest.push request.endpoint (label request.method) (label connection.consumer.kind)
          (.ofConnection connection))
      manifest).lines.Perm (connections.map Line.ofConnection ++ manifest.lines) := by
  induction connections generalizing manifest with
  | nil => exact .refl _
  | cons connection rest ih =>
    let line := Line.ofConnection connection
    have gained : (manifest.push line.endpoint line.method line.kind line.entry).lines.Perm
        (line :: manifest.lines) := lines_push manifest _ _ _ _
    have moved := (gained.append_left (rest.map Line.ofConnection)).trans List.perm_middle
    rw [List.foldl_cons, List.map_cons, List.cons_append]
    exact (ih _).trans moved

/-- The manifest of a wiring has the lines of the connections. -/
theorem lines_ofWiring_perm (wiring : Wiring) :
    (ofWiring wiring).lines.Perm (wiring.connections.map Line.ofConnection) := by
  have pushed := lines_foldl_push wiring.connections empty
  have start : empty.lines = [] := rfl
  rw [start, List.append_nil] at pushed
  exact (lines_sorted_perm _).trans pushed

/-! ## The order of the lines -/

/-- The lines of sorted groups come in order. -/
theorem pairwise_lines_sorted (manifest : Manifest) :
    manifest.sorted.lines.Pairwise Line.NotAfter := by
  rw [lines_sorted, List.pairwise_flatMap]
  refine ⟨fun methods _ => ?_, manifest.groups.ascending.imp fun below => ?_⟩
  · rw [List.pairwise_flatMap]
    refine ⟨fun kinds _ => ?_, methods.2.ascending.imp fun below => ?_⟩
    · rw [List.pairwise_flatMap]
      refine ⟨fun group _ => ?_, kinds.2.ascending.imp fun below => ?_⟩
      · -- Within a group the texts of the consumers decide.
        rw [linesOfKind, List.pairwise_map]
        have sorted := ManifestEntry.pairwise_mergeSort_notAfter group.2
        exact sorted.imp fun ordered => .inr ⟨rfl, .inr ⟨rfl, .inr ⟨rfl, ordered⟩⟩⟩
      · simp only [linesOfKind, List.mem_map]
        rintro _ ⟨_, _, rfl⟩ _ ⟨_, _, rfl⟩
        exact .inr ⟨rfl, .inr ⟨rfl, .inl below⟩⟩
    · simp only [linesOfKind, List.mem_flatMap, List.mem_map]
      rintro _ ⟨_, _, _, _, rfl⟩ _ ⟨_, _, _, _, rfl⟩
      exact .inr ⟨rfl, .inl below⟩
  · simp only [linesOfKind, List.mem_flatMap, List.mem_map]
    rintro _ ⟨_, _, _, _, _, _, rfl⟩ _ ⟨_, _, _, _, _, _, rfl⟩
    exact .inl below

/-! ## The manifest of a wiring -/

/-- The manifest of a wiring lists its connections. -/
theorem lists_ofWiring (wiring : Wiring) : (ofWiring wiring).Lists wiring where
  complete := lines_ofWiring_perm wiring
  ordered := pairwise_lines_sorted _
  resolved connection _ := ManifestEntry.isResolved_ofConnection connection

/-- The lines of a wiring's manifest are counted by counting connections. -/
theorem Lists.countP_lines {manifest : Manifest} {wiring : Wiring} (lists : manifest.Lists wiring)
    {test : Line → Bool} {count : Connection → Bool}
    (same : ∀ connection, test (.ofConnection connection) = count connection) :
    manifest.lines.countP test = wiring.connections.countP count := by
  have tested : test ∘ Line.ofConnection = count := funext same
  rw [lists.complete.countP_eq, List.countP_map, tested]

end Manifest

end ApiWiring
