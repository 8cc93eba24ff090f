import ApiWiring.Proofs.Keyed.Readings
import ApiWiring.Proofs.Report.Manifest

/-!
# The groups of a manifest

A manifest is read off its groups: the entries of an endpoint, a method and a parameter kind. The
group of a wiring's manifest has the entries of the group's connections, sorted by the consumers'
texts. So a wiring that lacks the connections of one parameter kind, and no others, has a manifest
that lacks the lines of this kind, and no others.
-/
namespace ApiWiring.Manifest

variable {manifest other : Manifest} {endpoint method kind : String}

/-- The entries of a group. -/
def group (manifest : Manifest) (endpoint method kind : String) : List ManifestEntry :=
  (((manifest.groups.get? endpoint).getD .empty).get? method |>.getD .empty).bucket kind

/-- Whether a line is of a group. -/
def Line.inGroup (endpoint method kind : String) (line : Line) : Bool :=
  line.endpoint == endpoint && line.method == method && line.kind == kind

/-! ## What the groups hold -/

/-- Pushing an entry puts it at the end of its group and leaves the others. -/
theorem group_push (manifest : Manifest) (line : Line) :
    (manifest.push line.endpoint line.method line.kind line.entry).group endpoint method kind =
      manifest.group endpoint method kind ++
        if line.inGroup endpoint method kind then [line.entry] else [] := by
  simp only [group, push, SortedEntries.get?_alter, Line.inGroup, Bool.and_eq_true, beq_iff_eq]
  by_cases atEndpoint : endpoint = line.endpoint
  · subst atEndpoint
    by_cases byMethod : method = line.method
    · subst byMethod
      simp [SortedEntries.get?_alter, SortedEntries.bucket_push, eq_comm]
    · simp [SortedEntries.get?_alter, byMethod, Ne.symm byMethod]
  · simp [atEndpoint, Ne.symm atEndpoint]

/-- Pushing the entries of connections in turn puts those of a group at its end, in their order. -/
theorem group_foldl_push (connections : List Connection) (manifest : Manifest) :
    (connections.foldl
      (fun manifest connection =>
        let request := connection.consumer.slot.request
        manifest.push request.endpoint (label request.method) (label connection.consumer.kind)
          (.ofConnection connection))
      manifest).group endpoint method kind = manifest.group endpoint method kind ++
        ((connections.map Line.ofConnection).filter (·.inGroup endpoint method kind)).map
          (·.entry) := by
  induction connections generalizing manifest with
  | nil => simp
  | cons connection rest ih =>
    let line := Line.ofConnection connection
    refine (ih _).trans ?_
    change (manifest.push line.endpoint line.method line.kind line.entry).group endpoint method kind
      ++ _ = _
    rw [group_push, List.append_assoc, List.map_cons, List.filter_cons]
    congr 1
    split <;> simp [line]

/-- Sorting sorts every group. -/
theorem group_sorted (manifest : Manifest) : manifest.sorted.group endpoint method kind =
    (manifest.group endpoint method kind).mergeSort ManifestEntry.notAfter := by
  simp only [group, sorted, SortedEntries.get?_mapValues, SortedEntries.bucket]
  cases manifest.groups.get? endpoint with
  | none => simp [SortedEntries.get?, SortedEntries.empty]
  | some methods =>
    simp only [Option.map_some, Option.getD_some, SortedEntries.get?_mapValues]
    cases methods.get? method with
    | none => simp [SortedEntries.get?, SortedEntries.empty]
    | some kinds =>
      simp only [Option.map_some, Option.getD_some, SortedEntries.get?_mapValues]
      cases kinds.get? kind <;> simp

/-- A group of a wiring's manifest has the entries of the lines of the group, sorted. -/
theorem group_ofWiring (wiring : Wiring) : (ofWiring wiring).group endpoint method kind =
    (((wiring.connections.map Line.ofConnection).filter (·.inGroup endpoint method kind)).map
      (·.entry)).mergeSort ManifestEntry.notAfter := by
  rw [ofWiring, group_sorted, group_foldl_push]
  rfl

/-! ## Reading the groups -/

/-- If every group of a manifest has the lines of the group of another one that pass a test, then so
it is for all lines. -/
theorem lines_eq_filter (keep : Line → Bool)
    (agree : ∀ endpoint method kind,
      linesOfKind endpoint method kind (other.group endpoint method kind) =
        (linesOfKind endpoint method kind (manifest.group endpoint method kind)).filter keep) :
    other.lines = manifest.lines.filter keep := by
  rw [lines_eq, lines_eq, List.filter_flatMap]
  refine SortedEntries.flatMap_eq_of_agree manifest.groups other.groups
    (fun endpoint methods => (linesOfEndpoint endpoint methods).filter keep) linesOfEndpoint
    fun endpoint => ?_
  rw [SortedEntries.elim_get? _ _ .empty rfl, SortedEntries.elim_get? _ _ .empty rfl,
    linesOfEndpoint, linesOfEndpoint, List.filter_flatMap]
  refine SortedEntries.flatMap_eq_of_agree _ _
    (fun method kinds => (linesOfMethod endpoint method kinds).filter keep)
    (linesOfMethod endpoint) fun method => ?_
  rw [SortedEntries.elim_get? _ _ .empty rfl, SortedEntries.elim_get? _ _ .empty rfl,
    linesOfMethod, linesOfMethod, List.filter_flatMap]
  refine SortedEntries.flatMap_eq_of_agree _ _
    (fun kind entries => (linesOfKind endpoint method kind entries).filter keep)
    (linesOfKind endpoint method) fun kind => ?_
  rw [SortedEntries.elim_get? _ _ [] rfl, SortedEntries.elim_get? _ _ [] rfl]
  exact agree endpoint method kind

/-! ## Leaving out a parameter kind -/

/-- A wiring that has the connections of another one but for those of a parameter kind has a
manifest with its lines but for those of this kind. -/
theorem lines_ofWiring_filter {whole reduced : Wiring} {place : ParameterKind}
    (same : reduced.connections = whole.connections.filter (·.consumer.kind != place)) :
    (ofWiring reduced).lines = (ofWiring whole).lines.filter (·.kind != label place) := by
  have labels : ∀ left right : ParameterKind,
      (left != right) = (label left != label right) := by
    intro left right
    cases left <;> cases right <;> decide
  have lines : reduced.connections.map Line.ofConnection =
      (whole.connections.map Line.ofConnection).filter (·.kind != label place) := by
    rw [same, List.filter_map]
    congr 1
    exact List.filter_congr fun connection _ => labels _ _
  refine lines_eq_filter _ fun endpoint method kind => ?_
  -- All lines of a group have its kind, so it keeps either all of them or none.
  have decided : ∀ line : Line, (line.inGroup endpoint method kind && line.kind != label place) =
      (line.inGroup endpoint method kind && kind != label place) := by
    intro line
    rw [Line.inGroup, Bool.eq_iff_iff]
    simp only [Bool.and_eq_true, beq_iff_eq]
    constructor <;> rintro ⟨⟨places, rfl⟩, other⟩ <;> exact ⟨⟨places, rfl⟩, other⟩
  have uniform : ∀ entries, (linesOfKind endpoint method kind entries).filter
      (·.kind != label place) =
        linesOfKind endpoint method kind (entries.filter fun _ => kind != label place) :=
    fun _ => List.filter_map
  rw [uniform, group_ofWiring, group_ofWiring, lines, List.filter_filter]
  simp only [decided]
  cases kind != label place with
  | true => simp
  | false => simp

end ApiWiring.Manifest
