import ApiWiring.Proofs.Compilation.Defaults
import ApiWiring.Proofs.Grammar.Renewal
import ApiWiring.Proofs.Wiring.Rerun

/-!
# Compiling again

What a compilation added to the dictionary is there when one compiles again from the dictionary that
it gave, so the first pass adds nothing and the entries made before are used again. But the wiring
need not be the same: where inference finds an entry that it did not have before, other properties
of the body may be connected, and the second grammar may send what the first one did not
(`Extra`). Exactly then the dictionary grows once more.
-/
namespace ApiWiring.Compilation

open Text

variable {input : Input} {output later : Output}

/-- The input with the dictionary of an output to start from. -/
def rerun (input : Input) (output : Output) : Input :=
  { input with dictionary := output.dictionary }

/-- What is registered when one compiles again and need not have been registered before. -/
inductive Extra (before after : Wiring) (grammar : Grammar) : DictionarySection → String → Prop
    where
  /-- The unique name of a property that a response supplied before and that supplies another one of
  its body now. -/
  | joined (connection : Connection) (member : connection ∈ after.connections) (slot : Slot)
    (supplied : connection.producer? = some (.sibling slot)) (called : slot.name = "name")
    (container : String) (around : slot.containerName? = some container) (source : Slot)
    (responded : before.producerAt? (Consumer.plain slot .body).key = some (.response source)) :
    Extra before after grammar .uuidSuffix (container ++ "_name")
  /-- What a request sends at or below a property that supplied another one of its body before and
  does not any more. -/
  | released (key : ConsumerKey) (released : Passes.Released before after key)
    (sent : GrammarRequest) (listed : sent ∈ grammar.requests) (owner : sent.id = key.request)
    (entry : CustomPayload) (below : sent.MentionsBelow key.path entry) :
    Extra before after grammar entry.section_ entry.name

/-- Whether the entries that inference made are used again: the first pass adds nothing to the
dictionary, a path parameter with an entry has one of its name again, and a property that supplies
another one of its body both times keeps its entry. -/
structure UsesAgain (input : Input) (before after : Wiring) : Prop where
  /-- The first pass adds nothing. -/
  inferred : ∃ surveys wired, Passes.surveys (setting input) = .ok surveys ∧
    Passes.first (setting input) surveys = .ok wired ∧ wired.dictionary = input.dictionary
  /-- A path parameter with an entry has one again, and both have its name; the stem of a unique
  name gives way only to values under that name. -/
  path : ∀ key entry, key.kind = .path → before.producerAt? key = some (.dictionary entry) →
    ∃ other, after.producerAt? key = some (.dictionary other) ∧
      EqualIgnoringCase entry.name key.name ∧ EqualIgnoringCase other.name key.name ∧
        (entry.section_ = .uuidSuffix → other.section_ = .uuidSuffix ∨
          input.dictionary.Holds .string key.name)
  /-- A property that supplies another one both times keeps its entry. -/
  body : ∀ key, Passes.Supplies before key → Passes.Supplies after key →
    after.producerAt? key = before.producerAt? key

/-! ## The entries of the second grammar -/

section Course

variable {course : Passes.Rerun (setting input)} {entry : CustomPayload}

/-- An entry that a request sends now is held by the dictionary of the passes, or it is extra. -/
theorem holds_or_extra_of_renewed {before after : GrammarRequest} {grammar : Grammar}
    (listed : after ∈ grammar.requests)
    (held : ∀ other, before.Mentions other → course.final.Holds other.section_ other.name)
    (renewed : Grammar.Renewed course.before.wired.wiring course.after.wired.wiring before after
      entry) :
    course.after.wired.dictionary.Holds entry.section_ entry.name ∨
      Extra course.before.wired.wiring course.after.wired.wiring grammar entry.section_
        entry.name := by
  -- What was released is a property of a body, so the entry is sent below its path.
  have released : ∀ {kind : ParameterKind} {name : String} {path : AccessPath},
      Passes.Released course.before.wired.wiring course.after.wired.wiring
        ⟨after.id, kind, name, path⟩ →
      (kind = .body → after.MentionsBelow path entry) →
        Extra course.before.wired.wiring course.after.wired.wiring grammar entry.section_
          entry.name :=
    fun gone below => .released _ gone after listed rfl entry (below gone.1.kind)
  cases renewed with
  | kept mentioned => exact .inl (course.after_extends.holds (held entry mentioned))
  | stocked kind path present shown below =>
    obtain ⟨name, named, has⟩ := course.filed_after.producerAt?_of_producerFor? present
    rcases course.held_or_same_or_released has with
      there | ⟨former, had, placed, alike⟩ | gone
    · exact .inl there
    · have known := course.filed_before.producerFor?_eq after.id kind path
      rw [named, Option.bind_some, had] at known
      have kept := (held former (shown former known)).congr alike
      rw [placed] at kept
      exact .inl (course.after_extends.holds kept)
    · exact .inr (released gone below)
  | unique kind path slot present named =>
    obtain ⟨connection, member, _, _, _, supplied⟩ := Wiring.connection_of_producerFor? present
    obtain ⟨_, _, container, around, stored, found, _⟩ := Passes.settled_of_supplied
      course.resurveyed course.restarted course.refinished member supplied
    rw [named, around]
    exact .inl ⟨stored, Dictionary.mem_keys_of_key? found⟩
  | uncovered kind path had lost below =>
    obtain ⟨producer, there⟩ := Option.isSome_iff_exists.mp had
    obtain ⟨name, named, has⟩ := course.filed_before.producerAt?_of_producerFor? there
    have missing := course.filed_after.producerFor?_eq after.id kind path
    rw [named, Option.bind_some, lost] at missing
    exact .inr (released (course.released_of_lost (Option.isSome_of_eq_some has) missing.symm)
      below)

/-- A key that the passes add when they are run again is extra. -/
theorem extra_of_passes (grammar : Grammar) {from_ : DictionarySection} {name : String}
    (member : name ∈ course.after.wired.dictionary.keys from_)
    (absent : name ∉ course.final.keys from_) :
    Extra course.before.wired.wiring course.after.wired.wiring grammar from_ name := by
  obtain ⟨rfl, connection, there, slot, container, source, supplied, called, around, rfl,
    responded⟩ := course.joined_of_new member absent
  exact .joined connection there slot supplied called container around source responded

/-- A key that the second grammar or the passes before it add is extra. -/
theorem extra_of_new {requests : List Request} {options : Options} {first second : Grammar}
    {dictionary : Dictionary} {warnings : List Warning}
    (each : List.Forall₂ (Grammar.Sends course.before.wired.wiring options) requests first.requests)
    (held : ∀ other, first.Mentions other → course.final.Holds other.section_ other.name)
    (rebuilt : Grammar.build requests options course.after.wired =
      .ok (second, dictionary, warnings)) {from_ : DictionarySection} {name : String}
    (member : name ∈ dictionary.keys from_) (absent : name ∉ course.final.keys from_) :
    Extra course.before.wired.wiring course.after.wired.wiring second from_ name := by
  obtain ⟨again, registered, _⟩ := Grammar.build_eq_ok rebuilt
  rw [registered] at member
  rcases Dictionary.new_of_mem_keys_registerAll member with
    old | ⟨unheld, entry, sends, rfl, rfl⟩
  · exact extra_of_passes second old absent
  · obtain ⟨sent, listed, mentioned⟩ := Grammar.mem_customPayloads_iff.mp sends
    obtain ⟨request, asked, resends⟩ := Outcome.exists_member_of_forall₂ again listed
    obtain ⟨former, inFirst, sentBefore⟩ := Outcome.exists_result_of_forall₂ each asked
    have renewed := Grammar.renewed_of_sends sentBefore resends mentioned
    have accounted := holds_or_extra_of_renewed listed
      (fun other named => held other ⟨former, inFirst, named⟩) renewed
    exact accounted.resolve_left unheld

/-- What is extra is registered. -/
theorem holds_of_extra {grammar : Grammar} {dictionary : Dictionary} {warnings : List Warning}
    {requests : List Request} {options : Options}
    (built : Grammar.build requests options course.after.wired =
      .ok (grammar, dictionary, warnings)) {from_ : DictionarySection} {name : String}
    (extra : Extra course.before.wired.wiring course.after.wired.wiring grammar from_ name) :
    dictionary.Holds from_ name := by
  cases extra with
  | joined connection member slot supplied called container around source responded =>
    obtain ⟨_, _, other, named, stored, found, _⟩ := Passes.settled_of_supplied
      course.resurveyed course.restarted course.refinished member supplied
    rw [around, Option.some.injEq] at named
    obtain ⟨listed, alike⟩ := Dictionary.mem_keys_of_key? found
    obtain ⟨_, registered, _⟩ := Grammar.build_eq_ok built
    rw [registered]
    have unique : (Passes.siblingEntry other slot).name = container ++ "_name" := by
      rw [Passes.siblingEntry, called, named]
      exact String.append_assoc
    rw [← unique]
    exact (Dictionary.extends_registerAll _ _).holds ⟨stored, listed, alike⟩
  | released key released sent listed owner entry below =>
    exact Grammar.holds_of_mentions built ⟨sent, listed, below.mentions⟩

/-- The entries that inference made are used again. -/
theorem usesAgain (course : Passes.Rerun (setting input)) :
    UsesAgain { input with dictionary := course.final } course.before.wired.wiring
      course.after.wired.wiring where
  inferred := ⟨_, _, course.surveyed, course.restarted, course.dictionary_late⟩
  path _ _ := course.path_entry_again
  body _ := course.supplied_again

end Course

/-! ## The dictionary -/

/-- If one compiles again from the dictionary that a compilation gave and both succeed, the entries
made before are used again and default entries are appended, whose keys are extra. Whatever is extra
is held then; so the dictionary stays as it is, and no entry is counted, exactly when all that is
extra was held before. -/
theorem dictionary_of_rerun (done : compile input = .ok output)
    (redone : compile (rerun input output) = .ok later) :
    ∃ before after, Passes.run (setting input) = .ok before ∧
      Passes.run (setting (rerun input output)) = .ok after ∧
        UsesAgain (rerun input output) before.wired.wiring after.wired.wiring ∧
        (∃ newKeys : DictionarySection → List String,
          later.dictionary.AppendsDefaults output.dictionary newKeys ∧
            later.summary.entriesAdded = (newKeys .string).length +
              (newKeys .uuidSuffix).length + (newKeys .header).length ∧
            ∀ from_, ∀ name ∈ newKeys from_,
              Extra before.wired.wiring after.wired.wiring later.grammar from_ name) ∧
        (∀ from_ name, Extra before.wired.wiring after.wired.wiring later.grammar from_ name →
          later.dictionary.Holds from_ name) ∧
        (later.dictionary = output.dictionary ∧ later.summary.entriesAdded = 0 ↔
          ∀ from_ name, Extra before.wired.wiring after.wired.wiring later.grammar from_ name →
            output.dictionary.Holds from_ name) := by
  obtain ⟨before, _, ran, built⟩ := compile_eq_ok done
  obtain ⟨after, _, reran, rebuilt⟩ := compile_eq_ok redone
  obtain ⟨course, fromOutput, sameBefore, sameAfter⟩ :=
    Passes.Rerun.exists_of_runs ran (extends_of_build built) reran
  obtain ⟨newKeys, appended⟩ := growsByDefault_of_compile redone
  have counted := entriesAdded_of_appended redone appended
  obtain ⟨each, _, _⟩ := Grammar.build_eq_ok built
  have reuses := usesAgain course
  rw [fromOutput, sameBefore, sameAfter] at reuses
  have extra : ∀ from_, ∀ name ∈ newKeys from_,
      Extra before.wired.wiring after.wired.wiring later.grammar from_ name := by
    intro from_ name new
    have present : name ∈ later.dictionary.keys from_ := by
      rw [appended.keys_eq from_]
      exact List.mem_append_right _ new
    rw [← sameBefore] at each ⊢
    rw [← sameAfter] at rebuilt ⊢
    refine extra_of_new each (fun other mentioned => ?_) rebuilt present ?_
    · rw [fromOutput]
      exact Grammar.holds_of_mentions built mentioned
    · rw [fromOutput]
      exact fun old => appended.unheld new (.of_mem old)
  have held : ∀ from_ name,
      Extra before.wired.wiring after.wired.wiring later.grammar from_ name →
        later.dictionary.Holds from_ name := by
    intro from_ name
    rw [← sameBefore, ← sameAfter]
    rw [← sameAfter] at rebuilt
    exact holds_of_extra rebuilt
  refine ⟨before, after, ran, reran, reuses, ⟨newKeys, appended, counted, extra⟩, held, ?_⟩
  constructor
  · rintro ⟨same, _⟩ from_ name new
    rw [← same]
    exact held from_ name new
  · intro old
    have none : ∀ from_, newKeys from_ = [] := by
      intro from_
      rw [List.eq_nil_iff_forall_not_mem]
      exact fun name new => appended.unheld new (old from_ name (extra from_ name new))
    refine ⟨appended.eq_of_none_new none, ?_⟩
    rw [counted, none, none, none]
    rfl

/-! ## Inputs that do not settle -/

/-- Whether compiling again from the dictionary that a compilation gave leaves it as it is, whenever
it succeeds. -/
def Settles (input : Input) : Prop :=
  ∀ output, compile input = .ok output → ∀ later, compile (rerun input output) = .ok later →
    later.dictionary = output.dictionary ∧ later.summary.entriesAdded = 0

/-- Whether path parameters with a unique name have a unique name again. -/
def UsesUniqueNamesAgain (input : Input) : Prop :=
  ∀ output, compile input = .ok output → ∀ before, Passes.run (setting input) = .ok before →
    ∀ after, Passes.run (setting (rerun input output)) = .ok after →
      ∀ key entry, key.kind = .path →
        before.wired.wiring.producerAt? key = some (.dictionary entry) →
          entry.section_ = .uuidSuffix → ∃ other,
            after.wired.wiring.producerAt? key = some (.dictionary other) ∧
              other.section_ = .uuidSuffix

/-- A request whose body has a resource with a name and a resource of its type with an identity
inside it. -/
def namedRequest : Request where
  id := ⟨"/c", .post⟩
  pathParameters := []
  queryParameters := .empty
  bodyParameters := ⟨[⟨"b", .inner ⟨"", none, .object, true, false⟩
    [.inner ⟨"t", none, .object, true, false⟩
      [.leaf (.plain "name" (.ofType .string)),
        .inner ⟨"t", none, .object, true, false⟩
          [.leaf (.plain "id" (.ofType .string))]]]⟩], none⟩
  response := none
  links := []

/-- A request that creates the resource which its path parameter names. -/
def creatingRequest (name : String) : Request where
  id := ⟨"/x/\x7b" ++ name ++ "\x7d", .put⟩
  pathParameters := [⟨name, .leaf (.plain name (.ofType .string))⟩]
  queryParameters := .empty
  bodyParameters := .empty
  response := none
  links := []

/-- A response with a name, a request that creates a resource by its name, and `namedRequest`. -/
def joinedInput : Input where
  requests := [
    { id := ⟨"/a/t", .post⟩
      pathParameters := []
      queryParameters := .empty
      bodyParameters := .empty
      response := some (.inner ⟨"", none, .object, true, false⟩
        [.leaf (.plain "name" (.ofType .string))])
      links := [] },
    creatingRequest "name", namedRequest]
  records := []
  dictionary := .empty
  ofEndpoint := .empty
  options := .standard

/-- A request that creates a resource by its identity, and `namedRequest`, whose endpoint has a list
of names. -/
def releasedInput : Input where
  requests := [creatingRequest "id", namedRequest]
  records := []
  dictionary := .empty
  ofEndpoint := .ofList [("/c", dictionaryOf "name")]
  options := .standard

/-- A request that creates a resource by its key, and a request with a query parameter of this name,
whose endpoint has a list of values for it. -/
def displacedInput : Input where
  requests := [creatingRequest "k", queryRequest "/a"]
  records := []
  dictionary := .empty
  ofEndpoint := .ofList [("/a", dictionaryOf "k")]
  options := .standard

/-- The path parameter of `displacedInput`. -/
def displacedKey : ConsumerKey := ⟨⟨"/x/\x7bk\x7d", .put⟩, .path, "k", ⟨["k"]⟩⟩

/-- What is read off the finished wiring and the dictionary, compiling and compiling again. -/
def twice? {α : Type} (input : Input) (read : Passes.Result → Dictionary → α) : Option (α × α) :=
  (built? input).bind fun first =>
    (built? { input with dictionary := first.2.2 }).map fun second =>
      (read first.1 first.2.2, read second.1 second.2.2)

/-- What was read belongs to two compilations that succeed. -/
theorem compile_of_twice? {α : Type} {read : Passes.Result → Dictionary → α} {first second : α}
    (computed : twice? input read = some (first, second))
    (canonical : ∀ entry ∈ input.dictionary.uninterpreted.toList,
      (Json.canonicalText? entry.2).isSome) :
    ∃ output later before after, compile input = .ok output ∧
      compile (rerun input output) = .ok later ∧ Passes.run (setting input) = .ok before ∧
        Passes.run (setting (rerun input output)) = .ok after ∧
          read before output.dictionary = first ∧ read after later.dictionary = second := by
  obtain ⟨⟨before, grammar, dictionary⟩, made, rest⟩ := Option.bind_eq_some_iff.mp computed
  obtain ⟨⟨after, other, final⟩, remade, both⟩ := Option.map_eq_some_iff.mp rest
  obtain ⟨readFirst, readSecond⟩ := Prod.mk.inj both
  obtain ⟨output, done, ran, _, same⟩ := compile_of_built? made canonical
  have kept : dictionary.uninterpreted = input.dictionary.uninterpreted := by
    rw [← same]
    exact (growsByDefault_of_compile done).extends.uninterpreted
  rw [← kept] at canonical
  obtain ⟨later, redone, reran, _, resame⟩ := compile_of_built? remade canonical
  refine ⟨output, later, before, after, done, ?_, ran, ?_, ?_, ?_⟩
  · rw [rerun, same]
    exact redone
  · rw [rerun, same]
    exact reran
  · rw [same]
    exact readFirst
  · rw [resame]
    exact readSecond

/-- The stems of unique names for `joinedInput`. -/
theorem keys_joinedInput :
    twice? joinedInput (fun _ dictionary => dictionary.keys .uuidSuffix) =
      some (["name"], ["name", "t_name"]) := by
  decide +kernel

/-- Compiling `joinedInput` again adds the unique name of the name in the body, since the identity
is now supplied by it. -/
theorem joinedInput_rerun :
    ∃ output later before after, compile joinedInput = .ok output ∧
      compile (rerun joinedInput output) = .ok later ∧
        Passes.run (setting joinedInput) = .ok before ∧
          Passes.run (setting (rerun joinedInput output)) = .ok after ∧
        output.dictionary.keys .uuidSuffix = ["name"] ∧
          later.dictionary.keys .uuidSuffix = ["name", "t_name"] ∧
            UsesAgain (rerun joinedInput output) before.wired.wiring after.wired.wiring ∧
              Extra before.wired.wiring after.wired.wiring later.grammar .uuidSuffix "t_name" := by
  obtain ⟨output, later, _, _, done, redone, _, _, first, second⟩ :=
    compile_of_twice? keys_joinedInput (by decide)
  obtain ⟨before, after, ran, reran, reuses, ⟨newKeys, appended, _, extra⟩, _⟩ :=
    dictionary_of_rerun done redone
  have new : newKeys .uuidSuffix = ["t_name"] := by
    have listed := appended.keys_eq .uuidSuffix
    rw [first, second] at listed
    simpa using listed.symm
  have member : "t_name" ∈ newKeys .uuidSuffix := by
    rw [new]
    exact .head _
  exact ⟨output, later, before, after, done, redone, ran, reran, first, second, reuses,
    extra .uuidSuffix "t_name" member⟩

/-- An input does not settle if a section has other keys after compiling again. -/
theorem not_settles_of_keys {from_ : DictionarySection} {first second : List String}
    (computed : twice? input (fun _ dictionary => dictionary.keys from_) = some (first, second))
    (differ : first ≠ second)
    (canonical : ∀ entry ∈ input.dictionary.uninterpreted.toList,
      (Json.canonicalText? entry.2).isSome) : ¬Settles input := by
  intro settles
  obtain ⟨output, later, _, _, done, redone, _, _, rfl, rfl⟩ :=
    compile_of_twice? computed canonical
  exact differ (congrArg (Dictionary.keys · from_) (settles output done later redone).1.symm)

/-- Compiling `joinedInput` again adds a unique name, and compiling `releasedInput` again adds the
list of names, since the identity has an entry now and the name is left to itself; and in
`displacedInput` values that the first grammar sends take the place of the unique name. -/
theorem not_settles_and_not_usesUniqueNamesAgain :
    ¬Settles joinedInput ∧ ¬Settles releasedInput ∧ ¬UsesUniqueNamesAgain displacedInput := by
  have released : twice? releasedInput (fun _ dictionary => dictionary.keys .string) =
      some ([], ["name"]) := by
    decide +kernel
  have displaced : twice? displacedInput
      (fun result _ => result.wired.wiring.producerAt? displacedKey) =
        some (some (.dictionary (.uniqueName "k")),
          some (.dictionary ⟨.string, .string, "k", false⟩)) := by
    decide +kernel
  refine ⟨not_settles_of_keys keys_joinedInput (by decide) (by decide),
    not_settles_of_keys released (by decide) (by decide), fun again => ?_⟩
  obtain ⟨output, later, before, after, done, _, ran, reran, had, has⟩ :=
    compile_of_twice? displaced (by decide)
  obtain ⟨other, there, unique⟩ := again output done before ran after reran displacedKey _ rfl had rfl
  rw [has] at there
  cases there
  cases unique

end ApiWiring.Compilation
