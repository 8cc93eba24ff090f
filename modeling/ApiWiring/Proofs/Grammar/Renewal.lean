import ApiWiring.Proofs.Grammar.Mentions
import ApiWiring.Proofs.Grammar.Substitution

/-!
# Grammars of two wirings

One request is put into a grammar twice, with two wirings. What the second grammar sends from the
dictionary it sends for one of three reasons (`Renewed`): the first grammar sends it too; a producer
of the second wiring sends it, and then the first grammar sends whatever entry the first wiring has
at that path; or a producer of the first wiring stood at or above it and is missing in the second.
-/
namespace ApiWiring

variable {entry : CustomPayload}

namespace PropertyTree

/-- Whether some node of a tree, at or below a path, sends a payload that mentions a dictionary
entry, when the root of the tree is at `root`. -/
def MentionsBelow (root path : AccessPath) (entry : CustomPayload) (tree : PropertyTree) : Prop :=
  ∃ position below payload, tree.subtree? position = some below ∧
    path.parts <+: (tree.pathTo root position).parts ∧
      below.node.payload? = some payload ∧ payload.Mentions entry

/-- What a tree mentions it mentions below its root. -/
theorem Mentions.below {tree : PropertyTree} (mentioned : tree.Mentions entry)
    (root : AccessPath) : tree.MentionsBelow root root entry := by
  obtain ⟨position, below, payload, found, sent, inside⟩ := mentioned
  have visited : (tree.pathTo root position, below.node) ∈ tree.visits root :=
    mem_visits_iff.mpr ⟨position, below, found, rfl, rfl⟩
  exact ⟨position, below, payload, found, prefix_of_mem_visits visited, sent, inside⟩

/-- What a tree mentions below a path it mentions. -/
theorem MentionsBelow.mentions {tree : PropertyTree} {root path : AccessPath}
    (below : tree.MentionsBelow root path entry) : tree.Mentions entry := by
  obtain ⟨position, subtree, payload, found, _, sent, inside⟩ := below
  exact ⟨position, subtree, payload, found, sent, inside⟩

/-- A leaf mentions what its payload mentions. -/
theorem mentions_leaf_iff {property : LeafProperty} :
    (leaf property).Mentions entry ↔ property.payload.Mentions entry := by
  constructor
  · rintro ⟨position, below, payload, found, sent, inside⟩
    cases position with
    | nil =>
      cases found
      cases sent
      exact inside
    | cons index rest => simp at found
  · intro inside
    exact ⟨[], _, _, rfl, rfl, inside⟩

variable {property : InnerProperty} {children : List PropertyTree}

/-- An inner node mentions what it sends itself. -/
theorem mentions_of_override {payload : Payload} (own : property.override = some payload)
    (inside : payload.Mentions entry) : (inner property children).Mentions entry :=
  ⟨[], _, payload, rfl, own, inside⟩

/-- An inner node mentions what a child mentions, below the same paths. -/
theorem MentionsBelow.of_child {child : PropertyTree} {root path : AccessPath}
    (member : child ∈ children)
    (below : child.MentionsBelow (root.child (property.component child.name)) path entry) :
    (inner property children).MentionsBelow root path entry := by
  obtain ⟨index, found⟩ := List.mem_iff_getElem?.mp member
  obtain ⟨position, subtree, payload, there, leading, sent, inside⟩ := below
  refine ⟨index :: position, subtree, payload, ?_, ?_, sent, inside⟩
  · rwa [subtree?_cons_of_child found]
  · rwa [pathTo_cons_of_child found]

/-- An inner node mentions what it sends itself and what its children mention. -/
theorem mentions_inner_iff : (inner property children).Mentions entry ↔
    (∃ payload, property.override = some payload ∧ payload.Mentions entry) ∨
      ∃ child ∈ children, child.Mentions entry := by
  constructor
  · rintro ⟨position, below, payload, found, sent, inside⟩
    cases position with
    | nil =>
      cases found
      exact .inl ⟨payload, sent, inside⟩
    | cons index rest =>
      cases there : children[index]? with
      | none => simp [subtree?_cons_of_no_child there] at found
      | some child =>
        rw [subtree?_cons_of_child there] at found
        exact .inr ⟨child, List.mem_of_getElem? there, rest, below, payload, found, sent, inside⟩
  · rintro (⟨payload, own, inside⟩ | ⟨child, member, mentioned⟩)
    · exact mentions_of_override own inside
    · exact (MentionsBelow.of_child member (mentioned.below (.child .root _))).mentions

end PropertyTree

namespace Resolution

/-! ## One tree -/

/-- What takes the place of a subtree mentions what its payload mentions. -/
theorem mentions_replacement {payload : Payload} (inside : payload.Mentions entry)
    (below : PropertyTree) : (replacement payload below).Mentions entry := by
  have item : (PropertyTree.leaf (.plain "" payload)).Mentions entry :=
    PropertyTree.mentions_leaf_iff.mpr inside
  cases below with
  | leaf property => exact PropertyTree.mentions_leaf_iff.mpr inside
  | inner property children =>
    cases shape : property.shape with
    | array =>
      simp only [replacement, shape]
      exact PropertyTree.mentions_inner_iff.mpr (.inr ⟨_, .head _, item⟩)
    | object | property =>
      simp only [replacement, shape]
      exact PropertyTree.mentions_leaf_iff.mpr inside

/-- What takes the place of a subtree mentions what its payload mentions and, if it is an array,
what the array sends itself. -/
theorem mentions_of_replacement {payload : Payload} {below : PropertyTree}
    (mentioned : (replacement payload below).Mentions entry) :
    payload.Mentions entry ∨ ∃ property children own, below = .inner property children ∧
      property.shape = .array ∧ property.override = some own ∧ own.Mentions entry := by
  cases below with
  | leaf property => exact .inl (PropertyTree.mentions_leaf_iff.mp mentioned)
  | inner property children =>
    cases shape : property.shape with
    | array =>
      simp only [replacement, shape, PropertyTree.mentions_inner_iff, List.mem_singleton,
        exists_eq_left, PropertyTree.mentions_leaf_iff] at mentioned
      rcases mentioned with ⟨own, held, inside⟩ | item
      · exact .inr ⟨property, children, own, rfl, shape, held, inside⟩
      · exact .inl item
    | object | property =>
      simp only [replacement, shape, PropertyTree.mentions_leaf_iff] at mentioned
      exact .inl mentioned

/-- A resolved tree keeps the name of its root. -/
theorem name_of_tree {source : Source} {root : AccessPath} {before after : PropertyTree}
    (resolved : tree source root before = .ok after) : after.name = before.name := by
  cases present : source.producer? root with
  | some producer =>
    obtain ⟨_, payload, _, rfl⟩ := (tree_of_supplied present after).mp resolved
    cases before with
    | leaf property => rfl
    | inner property children =>
      cases shape : property.shape <;> simp only [replacement, shape] <;> rfl
  | none =>
    cases before with
    | leaf property =>
      simp only [tree, present, Except.ok.injEq] at resolved
      rw [← resolved]
    | inner property children =>
      simp only [tree, present] at resolved
      obtain ⟨results, _, built⟩ := Outcome.bind_eq_ok_iff.mp resolved
      cases built
      rfl

/-- Why a tree, resolved from one source and then from another one, mentions an entry after the
second time. -/
inductive Renewed (former latter : Source) (root : AccessPath) (before after : PropertyTree)
    (entry : CustomPayload) : Prop where
  /-- It did so after the first time. -/
  | kept (mentioned : before.Mentions entry)
  /-- A producer of the second source sends it; an entry that the first source has there was
  mentioned after the first time. -/
  | supplied (path : AccessPath) (producer : Producer) (payload : Payload)
    (present : latter.producer? path = some producer)
    (sends : latter.payload path producer = .ok payload) (inside : payload.Mentions entry)
    (shown : ∀ other, former.producer? path = some (.dictionary other) → before.Mentions other)
    (below : after.MentionsBelow root path entry)
  /-- It is at or below a path for which only the first source has a producer. -/
  | uncovered (path : AccessPath) (had : (former.producer? path).isSome)
    (lost : latter.producer? path = none) (below : after.MentionsBelow root path entry)

variable {former latter : Source} {root : AccessPath} {given before after : PropertyTree}

/-- What holds of a child holds of the node. -/
theorem Renewed.of_child {property : InnerProperty} {firsts seconds : List PropertyTree}
    {first second : PropertyTree} (inFirsts : first ∈ firsts) (inSeconds : second ∈ seconds)
    (renewed : Renewed former latter (root.child (property.component second.name)) first second
      entry) :
    Renewed former latter root (.inner property firsts) (.inner property seconds) entry := by
  have lift : ∀ {mentioned : CustomPayload}, first.Mentions mentioned →
      (PropertyTree.inner property firsts).Mentions mentioned := fun inside =>
    PropertyTree.mentions_inner_iff.mpr (.inr ⟨first, inFirsts, inside⟩)
  cases renewed with
  | kept mentioned => exact .kept (lift mentioned)
  | supplied path producer payload present sends inside shown below =>
    exact .supplied path producer payload present sends inside
      (fun other had => lift (shown other had)) (.of_child inSeconds below)
  | uncovered path had lost below => exact .uncovered path had lost (.of_child inSeconds below)

/-- What an array sends itself it sends after every resolution. -/
theorem mentions_override_of_tree {property : InnerProperty} {children : List PropertyTree}
    {own : Payload} (array : property.shape = .array) (held : property.override = some own)
    (inside : own.Mentions entry)
    (resolved : tree former root (.inner property children) = .ok before) :
    before.Mentions entry := by
  cases present : former.producer? root with
  | some producer =>
    obtain ⟨_, payload, _, rfl⟩ := (tree_of_supplied present before).mp resolved
    simp only [replacement, array]
    exact PropertyTree.mentions_of_override held inside
  | none =>
    simp only [tree, present] at resolved
    obtain ⟨results, _, built⟩ := Outcome.bind_eq_ok_iff.mp resolved
    cases built
    exact PropertyTree.mentions_of_override held inside

/-- A tree whose root has a producer in the second source. -/
theorem renewed_of_supplied {producer : Producer}
    (resolved : tree former root given = .ok before)
    (present : latter.producer? root = some producer)
    (reresolved : tree latter root given = .ok after) (mentioned : after.Mentions entry) :
    Renewed former latter root before after entry := by
  obtain ⟨_, payload, sends, rfl⟩ := (tree_of_supplied present after).mp reresolved
  rcases mentions_of_replacement mentioned with
    inside | ⟨property, children, own, rfl, array, held, inside⟩
  · refine .supplied root producer payload present sends inside (fun other had => ?_)
      (mentioned.below root)
    obtain ⟨_, sent, given, rfl⟩ := (tree_of_supplied had before).mp resolved
    cases given
    exact mentions_replacement .itself _
  · exact .kept (mentions_override_of_tree array held inside resolved)

/-- An entry that a tree mentions after it was resolved from the second source it mentions for one
of the three reasons. -/
theorem renewed_of_tree (resolved : tree former root given = .ok before)
    (reresolved : tree latter root given = .ok after) (mentioned : after.Mentions entry) :
    Renewed former latter root before after entry := by
  induction given using PropertyTree.induction generalizing root before after with
  | leaf property =>
    cases present : latter.producer? root with
    | some producer => exact renewed_of_supplied resolved present reresolved mentioned
    | none =>
      cases had : former.producer? root with
      | some other =>
        exact .uncovered root (Option.isSome_of_eq_some had) present (mentioned.below root)
      | none =>
        simp only [tree, had, present, Except.ok.injEq] at resolved reresolved
        rw [← reresolved, resolved] at mentioned
        exact .kept mentioned
  | inner property children ih =>
    cases present : latter.producer? root with
    | some producer => exact renewed_of_supplied resolved present reresolved mentioned
    | none =>
      cases had : former.producer? root with
      | some other =>
        exact .uncovered root (Option.isSome_of_eq_some had) present (mentioned.below root)
      | none =>
        simp only [tree, had, present] at resolved reresolved
        obtain ⟨firsts, each, built⟩ := Outcome.bind_eq_ok_iff.mp resolved
        obtain ⟨seconds, again, rebuilt⟩ := Outcome.bind_eq_ok_iff.mp reresolved
        cases built
        cases rebuilt
        rw [trees_eq_mapM, Outcome.mapM_eq_ok_iff] at each again
        rcases PropertyTree.mentions_inner_iff.mp mentioned with
          ⟨payload, own, inside⟩ | ⟨second, inSeconds, inside⟩
        · exact .kept (PropertyTree.mentions_of_override own inside)
        · obtain ⟨child, member, remade⟩ := Outcome.exists_member_of_forall₂ again inSeconds
          obtain ⟨first, inFirsts, made⟩ := Outcome.exists_result_of_forall₂ each member
          have renewed := ih child member made remade inside
          rw [← name_of_tree remade] at renewed
          exact renewed.of_child inFirsts inSeconds

/-! ## The path -/

/-- A part of a path resolved from two wirings: the same in both, or what each sends for a parameter
of the path. -/
inductive SamePart (former latter : Wiring) (request : Request) : Payload → Payload → Prop where
  /-- A text or the free value of a parameter that is not declared. -/
  | same (part : Payload) : SamePart former latter request part part
  /-- A declared parameter. -/
  | declared (given first second : Parameter) (left right : LeafProperty)
    (resolved : parameter ⟨former, request.id, .path, none⟩ given = .ok first)
    (reresolved : parameter ⟨latter, request.id, .path, none⟩ given = .ok second)
    (single : first.payload = .leaf left) (alsoSingle : second.payload = .leaf right) :
    SamePart former latter request left.payload right.payload

/-- Two paths made of the same segments are the same part by part. -/
theorem sameParts_of_segments {former latter : Wiring} {request : Request}
    {segments : List String} {start restart : Dictionary} {firsts seconds : List Payload}
    (made : (segmentsWith former request start segments).parts = .ok firsts)
    (remade : (segmentsWith latter request restart segments).parts = .ok seconds) :
    List.Forall₂ (SamePart former latter request) firsts seconds := by
  induction segments generalizing start restart firsts seconds with
  | nil =>
    cases made
    cases remade
    exact .nil
  | cons segment rest ih =>
    -- What differs is the part of the segment; a slash before it and the rest behind it do not.
    have extend : ∀ {start restart : Dictionary} {left right : Payload},
        SamePart former latter request left right →
        ((segmentsWith former request start rest).parts.map ([.text "/", left] ++ ·)) =
          .ok firsts →
        ((segmentsWith latter request restart rest).parts.map ([.text "/", right] ++ ·)) =
          .ok seconds → List.Forall₂ (SamePart former latter request) firsts seconds := by
      intro start restart left right same mapped remapped
      obtain ⟨others, later, rfl⟩ := Outcome.map_eq_ok_iff.mp mapped
      obtain ⟨_, alsoLater, rfl⟩ := Outcome.map_eq_ok_iff.mp remapped
      exact .cons (.same _) (.cons same (ih later alsoLater))
    unfold segmentsWith at made remade
    cases named : Endpoint.parameterName? segment with
    | none =>
      simp only [named] at made remade
      exact extend (.same _) made remade
    | some name =>
      cases found : request.pathParameter? name with
      | none =>
        simp only [named, found] at made remade
        exact extend (.same _) made remade
      | some given =>
        simp only [named, found] at made remade
        split at made
        · cases made
        · rename_i firstPayload middle sent
          split at remade
          · cases remade
          · rename_i secondPayload remiddle resent
            obtain ⟨⟨first, left, resolved, single, rfl⟩, _⟩ := segmentWith_eq_ok sent
            obtain ⟨⟨second, right, reresolved, alsoSingle, rfl⟩, _⟩ := segmentWith_eq_ok resent
            exact extend (.declared given first second left right resolved reresolved single
              alsoSingle) made remade

/-- An entry in what a producer sends is its own or in the path of the request. -/
theorem mentions_of_payload {source : Source} {path : AccessPath} {producer : Producer}
    {payload : Payload} (sends : source.payload path producer = .ok payload)
    (inside : payload.Mentions entry) :
    producer = .dictionary entry ∨ (∃ slot, producer = .sibling slot ∧
      entry = .uniqueName (slot.containerName?.getD "" ++ "_" ++ slot.name)) ∨
        ∃ parts part, source.requestPath = some parts ∧ part ∈ parts ∧ part.Mentions entry := by
  cases producer with
  | response slot =>
    cases sends
    cases inside
  | dictionary other =>
    cases sends
    cases inside
    exact .inl rfl
  | sibling slot =>
    unfold Source.payload producerPayload at sends
    cases known : source.requestPath with
    | none => simp [known] at sends
    | some parts =>
      simp only [known, Except.ok.injEq] at sends
      rw [← sends, siblingPayload] at inside
      cases inside with
      | part _ part listed mentioned =>
        rcases List.mem_append.mp listed with front | back
        · exact .inr (.inr ⟨parts, part, rfl, front, mentioned⟩)
        · rcases List.mem_pair.mp back with rfl | rfl
          · cases mentioned
          · cases mentioned
            exact .inr (.inl ⟨slot, rfl, rfl⟩)

end Resolution

/-! ## One request -/

/-- Whether a request mentions a dictionary entry in its body at or below a path. -/
def GrammarRequest.MentionsBelow (path : AccessPath) (entry : CustomPayload)
    (sent : GrammarRequest) : Prop :=
  ∃ parameter ∈ sent.bodyParameters, parameter.payload.MentionsBelow .root path entry

/-- What a request mentions in its body below a path it mentions. -/
theorem GrammarRequest.MentionsBelow.mentions {path : AccessPath} {sent : GrammarRequest}
    (below : sent.MentionsBelow path entry) : sent.Mentions entry := by
  obtain ⟨parameter, listed, inside⟩ := below
  exact .body parameter listed inside.mentions

namespace Grammar

open Resolution

/-- Why a request that was put into two grammars mentions an entry in the second one. -/
inductive Renewed (former latter : Wiring) (before after : GrammarRequest)
    (entry : CustomPayload) : Prop where
  /-- It does so in the first one. -/
  | kept (mentioned : before.Mentions entry)
  /-- The entry is a producer of the second wiring; the one that the first wiring has there is
  mentioned in the first grammar. -/
  | stocked (kind : ParameterKind) (path : AccessPath)
    (present : latter.producerFor? after.id kind path = some (.dictionary entry))
    (shown : ∀ other, former.producerFor? after.id kind path = some (.dictionary other) →
      before.Mentions other)
    (below : kind = .body → after.MentionsBelow path entry)
  /-- The entry is the unique name of a property that supplies another one. -/
  | unique (kind : ParameterKind) (path : AccessPath) (slot : Slot)
    (present : latter.producerFor? after.id kind path = some (.sibling slot))
    (named : entry = .uniqueName (slot.containerName?.getD "" ++ "_" ++ slot.name))
  /-- Only the first wiring has a producer there. -/
  | uncovered (kind : ParameterKind) (path : AccessPath)
    (had : (former.producerFor? after.id kind path).isSome)
    (lost : latter.producerFor? after.id kind path = none)
    (below : kind = .body → after.MentionsBelow path entry)

variable {former latter : Wiring} {options : Options} {request : Request}
  {before after : GrammarRequest}

/-- The reasons of a parameter are reasons of the request. -/
theorem Renewed.of_tree {kind : ParameterKind} {left right : Option (List Payload)}
    {root : AccessPath} {first second : PropertyTree}
    (renewed : Resolution.Renewed ⟨former, after.id, kind, left⟩ ⟨latter, after.id, kind, right⟩
      root first second entry)
    (inBefore : ∀ other, first.Mentions other → before.Mentions other)
    (inPath : ∀ parts part, right = some parts → part ∈ parts → part.Mentions entry →
      Renewed former latter before after entry)
    (inAfter : kind = .body → ∀ path, second.MentionsBelow root path entry →
      after.MentionsBelow path entry) : Renewed former latter before after entry := by
  cases renewed with
  | kept mentioned => exact .kept (inBefore entry mentioned)
  | supplied path producer payload present sends inside shown below =>
    rcases mentions_of_payload sends inside with
      rfl | ⟨slot, rfl, named⟩ | ⟨parts, part, known, listed, mentioned⟩
    · exact .stocked kind path present (fun other had => inBefore other (shown other had))
        fun body => inAfter body path below
    · exact .unique kind path slot present named
    · exact inPath parts part known listed mentioned
  | uncovered path had lost below =>
    exact .uncovered kind path had lost fun body => inAfter body path below

/-- A parameter is resolved as a tree. -/
theorem tree_of_parameter {source : Source} {given made : Parameter}
    (resolved : parameter source given = .ok made) :
    tree source (rootOf source.kind given.name) given.payload = .ok made.payload := by
  obtain ⟨payload, done, built⟩ := Outcome.bind_eq_ok_iff.mp resolved
  cases built
  exact done

/-- An entry mentioned in the path of a request is mentioned for one of the reasons. -/
theorem renewed_of_path (sends : Sends former options request before)
    (resends : Sends latter options request after) {part : Payload} (listed : part ∈ after.path)
    (mentioned : part.Mentions entry) : Renewed former latter before after entry := by
  obtain ⟨_, made⟩ := sends.path
  obtain ⟨_, remade⟩ := resends.path
  obtain ⟨other, inBefore, same⟩ :=
    Outcome.exists_member_of_forall₂ (sameParts_of_segments made remade) listed
  cases same with
  | same => exact .kept (.path part inBefore mentioned)
  | declared given first second left right resolved reresolved single alsoSingle =>
    have inside : second.payload.Mentions entry := by
      rw [alsoSingle]
      exact PropertyTree.mentions_leaf_iff.mpr mentioned
    rw [← resends.id] at resolved reresolved
    refine Renewed.of_tree (renewed_of_tree (tree_of_parameter resolved)
      (tree_of_parameter reresolved) inside) (fun other named => ?_) nofun nofun
    rw [single, PropertyTree.mentions_leaf_iff] at named
    exact .path _ inBefore named

/-- An entry mentioned in a request is mentioned for one of the reasons. -/
theorem renewed_of_sends (sends : Sends former options request before)
    (resends : Sends latter options request after) (mentioned : after.Mentions entry) :
    Renewed former latter before after entry := by
  have inPath : ∀ parts part, some after.path = some parts → part ∈ parts →
      part.Mentions entry → Renewed former latter before after entry := by
    rintro parts part same listed inside
    cases same
    exact renewed_of_path sends resends listed inside
  have owner : before.id = after.id := sends.id.trans resends.id.symm
  cases mentioned with
  | path part listed inside => exact renewed_of_path sends resends listed inside
  | query second listed inside =>
    obtain ⟨given, member, reresolved⟩ := Outcome.exists_member_of_forall₂ resends.query listed
    obtain ⟨first, inBefore, resolved⟩ := Outcome.exists_result_of_forall₂ sends.query member
    rw [owner] at resolved
    exact Renewed.of_tree (renewed_of_tree (tree_of_parameter resolved)
      (tree_of_parameter reresolved) inside)
      (fun other named => .query first inBefore named) inPath nofun
  | body second listed inside =>
    obtain ⟨given, member, reresolved⟩ := Outcome.exists_member_of_forall₂ resends.body listed
    obtain ⟨first, inBefore, resolved⟩ := Outcome.exists_result_of_forall₂ sends.body member
    rw [owner] at resolved
    exact Renewed.of_tree (renewed_of_tree (tree_of_parameter resolved)
      (tree_of_parameter reresolved) inside)
      (fun other named => .body first inBefore named) inPath
      fun _ path below => ⟨second, listed, below⟩

end Grammar

end ApiWiring
