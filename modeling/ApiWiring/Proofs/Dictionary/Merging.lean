import ApiWiring.Proofs.Dictionary.Growth

/-!
# Merging dictionaries

What came first wins. Merging three dictionaries gives the same one whichever two are merged first,
the order of the entries included; merging a dictionary into itself adds nothing; and what merging
says it added is what the dictionary grew by. Whatever is registered and merged afterwards
(`Dictionary.enlarged`), a look-up that found something finds the same again, also where a section
has several spellings of one key.
-/
namespace ApiWiring.Dictionary

open Text

/-! ## Counting and grouping -/

/-- Merging adds as many entries as it says. -/
theorem size_mergeMissing (dictionary other : Dictionary) :
    (dictionary.mergeMissing other).1.size =
      dictionary.size + (dictionary.mergeMissing other).2 := by
  have custom := dictionary.custom.size_mergeMissing other.custom.toList
  have uuidSuffix := dictionary.uuidSuffix.size_mergeMissing other.uuidSuffix.toList
  have header := dictionary.header.size_mergeMissing other.header.toList
  simp only [size, mergeMissing]
  omega

/-- Of three dictionaries any two neighbours may be merged first. -/
theorem mergeMissing_mergeMissing (first second third : Dictionary) :
    (first.mergeMissing (second.mergeMissing third).1).1 =
      ((first.mergeMissing second).1.mergeMissing third).1 := by
  simp only [mergeMissing, Entries.mergeMissing_mergeMissing]

/-- A dictionary merged into itself adds nothing. -/
theorem mergeMissing_same (dictionary : Dictionary) :
    dictionary.mergeMissing dictionary = (dictionary, 0) := by
  have same := mergeMissing_self dictionary
  have counted := size_mergeMissing dictionary dictionary
  rw [same] at counted
  have none_added : (dictionary.mergeMissing dictionary).2 = 0 := by omega
  exact Prod.ext same none_added

/-! ## Registering again -/

/-- Registering adds an entry exactly when the section does not hold the name. -/
theorem register_snd_iff {dictionary : Dictionary} {payload : CustomPayload} :
    (dictionary.register payload).2 = true ↔
      ¬dictionary.Holds payload.section_ payload.name := by
  have missing : ∀ {α : Type} (entries : Entries α) (value : α),
      (entries.insertMissing payload.name value).2 = true ↔
        ¬∃ held ∈ entries.keys, EqualIgnoringCase held payload.name := by
    intro α entries value
    rw [Entries.insertMissing_snd, ← Entries.holds_iff, Bool.not_eq_true', Bool.not_eq_true]
  unfold register Holds
  cases payload.section_ with
  | string => exact missing _ _
  | uuidSuffix => exact missing _ _
  | header => exact missing _ _

/-- Registering a payload whose section holds its name changes nothing. -/
theorem register_of_holds {dictionary : Dictionary} {payload : CustomPayload}
    (held : dictionary.Holds payload.section_ payload.name) :
    dictionary.register payload = (dictionary, false) := by
  have unchanged : ∀ {α : Type} (entries : Entries α) (value : α),
      (∃ held ∈ entries.keys, EqualIgnoringCase held payload.name) →
        entries.insertMissing payload.name value = (entries, false) :=
    fun entries value there => Entries.insertMissing_of_holds (Entries.holds_iff.mpr there)
  unfold Holds at held
  unfold register
  cases place : payload.section_ with
  | string =>
    rw [place] at held
    simp only [unchanged dictionary.custom _ held]
  | uuidSuffix =>
    rw [place] at held
    simp only [unchanged dictionary.uuidSuffix _ held]
  | header =>
    rw [place] at held
    simp only [unchanged dictionary.header _ held]

/-- Registering payloads whose names are held changes nothing. -/
theorem registerAll_of_holds {dictionary : Dictionary} {payloads : List CustomPayload}
    (held : ∀ payload ∈ payloads, dictionary.Holds payload.section_ payload.name) :
    dictionary.registerAll payloads = dictionary := by
  induction payloads with
  | nil => rfl
  | cons payload rest ih =>
    obtain ⟨here, later⟩ := List.forall_mem_cons.mp held
    rw [registerAll_cons, register_of_holds here]
    exact ih later

/-- Registering payloads twice is registering them once. -/
theorem registerAll_registerAll (dictionary : Dictionary) (payloads : List CustomPayload) :
    (dictionary.registerAll payloads).registerAll payloads = dictionary.registerAll payloads :=
  registerAll_of_holds fun _ member => holds_registerAll_of_mem member

/-! ## Additions -/

/-- What may be added to a dictionary. -/
inductive Addition where
  /-- The default entry of a payload. -/
  | register (payload : CustomPayload)
  /-- The entries of another dictionary. -/
  | merge (other : Dictionary)

/-- A dictionary after additions, one after the other. -/
def enlarged (dictionary : Dictionary) (additions : List Addition) : Dictionary :=
  additions.foldl
    (fun dictionary addition =>
      match addition with
      | .register payload => (dictionary.register payload).1
      | .merge other => (dictionary.mergeMissing other).1)
    dictionary

/-- Additions make a dictionary grow. -/
theorem extends_enlarged (dictionary : Dictionary) (additions : List Addition) :
    (dictionary.enlarged additions).Extends dictionary := by
  induction additions generalizing dictionary with
  | nil => exact .refl dictionary
  | cons addition rest ih =>
    cases addition with
    | register payload => exact (ih _).trans (extends_register dictionary payload)
    | merge other => exact (ih _).trans (extends_mergeMissing dictionary other)

/-- The first wins in dictionaries. Any two neighbours of three may be merged first; a dictionary
merged into itself adds nothing; the count is what the dictionary grew by; whatever is added later,
a look-up that found something finds the same; and registering adds an entry exactly when no key of
the section equals the name ignoring case, so never again afterwards. -/
theorem first_wins (first second third : Dictionary) :
    ((first.mergeMissing second).1.mergeMissing third).1 =
        (first.mergeMissing (second.mergeMissing third).1).1 ∧
      first.mergeMissing first = (first, 0) ∧
      (first.mergeMissing second).1.size = first.size + (first.mergeMissing second).2 ∧
      (∀ additions key,
        (∀ values, first.custom.value? key = some values →
          (first.enlarged additions).custom.value? key = some values) ∧
        (∀ stem, first.uuidSuffix.value? key = some stem →
          (first.enlarged additions).uuidSuffix.value? key = some stem) ∧
        ∀ from_ stored, first.key? from_ key = some stored →
          (first.enlarged additions).key? from_ key = some stored) ∧
      ∀ payload,
        ((first.register payload).2 = true ↔ ¬first.Holds payload.section_ payload.name) ∧
        ∀ additions, ((first.register payload).1.enlarged additions).register payload =
          ((first.register payload).1.enlarged additions, false) := by
  refine ⟨(mergeMissing_mergeMissing first second third).symm, mergeMissing_same first,
    size_mergeMissing first second, fun additions key => ?_, fun payload => ?_⟩
  · have grown := extends_enlarged first additions
    refine ⟨fun values found => ?_, fun stem found => ?_, fun from_ stored found => ?_⟩
    · exact grown.custom.value? found
    · exact grown.uuidSuffix.value? found
    · exact grown.key? found
  · refine ⟨register_snd_iff, fun additions => register_of_holds ?_⟩
    have grown := extends_enlarged (first.register payload).1 additions
    exact grown.holds (holds_register first payload)

/-- A dictionary whose values have two spellings of one key. -/
def spelledTwice : Dictionary :=
  { empty with custom := .ofList [("ID", ["1"]), ("id", ["2"])] }

/-- What is added to it: a third spelling, registered and then merged with another key. -/
def thirdSpelling : List Addition :=
  [.register ⟨.string, .string, "iD", false⟩,
    .merge { empty with custom := .ofList [("iD", ["3"]), ("name", ["x"])] }]

/-- Each spelling keeps its value, a third one is the first of the two, and what was registered once
is not added again. -/
theorem spelledTwice_first_wins :
    (spelledTwice.enlarged thirdSpelling).custom.value? "id" = some ["2"] ∧
      (spelledTwice.enlarged thirdSpelling).custom.value? "iD" = some ["1"] ∧
      (spelledTwice.enlarged thirdSpelling).key? .string "iD" = some "ID" ∧
      (spelledTwice.register (.uniqueName "iD")).2 = true ∧
      ((spelledTwice.register (.uniqueName "iD")).1.register (.uniqueName "iD")).2 = false := by
  obtain ⟨_, _, _, found, registered⟩ := first_wins spelledTwice spelledTwice spelledTwice
  obtain ⟨isNew, again⟩ := registered (.uniqueName "iD")
  refine ⟨?_, ?_, ?_, ?_, ?_⟩
  · exact (found thirdSpelling "id").1 ["2"] (by decide)
  · exact (found thirdSpelling "iD").1 ["1"] (by decide)
  · exact (found thirdSpelling "iD").2.2 .string "ID" (by decide)
  · apply isNew.mpr
    rintro ⟨_, member, _⟩
    cases member
  · exact congrArg Prod.snd (again [])

end ApiWiring.Dictionary
