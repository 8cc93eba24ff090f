import ApiWiring.Proofs.Wiring.Calls
import ApiWiring.Proofs.Wiring.Keys

/-!
# The two look-ups

A producer is looked up by the key of its consumer, under the consumer's name, or by the path of
the value, under the name in which the path ends. For the nodes of query parameters and bodies the
two are one name, and the look-ups agree. A path parameter has any name: one that is empty or the
array marker is no name in which a path ends, so its producer is recorded and found by the key, but
never by the path.
-/
namespace ApiWiring

namespace Wiring

variable {wiring : Wiring} {key : ConsumerKey}

/-- Whether the look-up by the path of a key finds the producer that the look-up by the key does. -/
def LookupsAgree (wiring : Wiring) (key : ConsumerKey) : Prop :=
  wiring.producerFor? key.request key.kind key.path = wiring.producerAt? key

instance : Decidable (wiring.LookupsAgree key) := inferInstanceAs (Decidable (_ = _))

/-- In a filed wiring the look-ups of a key whose path ends in its name agree. -/
theorem Filed.lookupsAgree (filed : wiring.Filed) (named : key.path.EndsIn key.name) :
    wiring.LookupsAgree key := by
  have name : key.path.resourceName? = some key.name :=
    AccessPath.resourceName?_eq_some_iff.mpr named
  rw [LookupsAgree, filed.producerFor?_eq, name]
  rfl

/-- In a filed wiring the look-ups of a key whose path has its name last agree exactly when this is
neither empty nor the array marker, or when there is no producer. -/
theorem Filed.lookupsAgree_iff (filed : wiring.Filed)
    (last : key.path.parts.getLast? = some key.name) :
    wiring.LookupsAgree key ↔
      (key.name ≠ "" ∧ key.name ≠ AccessPath.arrayItem) ∨ wiring.producerAt? key = none := by
  by_cases named : key.name ≠ "" ∧ key.name ≠ AccessPath.arrayItem
  · exact iff_of_true (filed.lookupsAgree ⟨last, named⟩) (.inl named)
  · have nameless : key.path.resourceName? = none := by
      rw [Option.eq_none_iff_forall_not_mem]
      intro name found
      obtain ⟨ends, proper⟩ := AccessPath.resourceName?_eq_some_iff.mp found
      obtain rfl : key.name = name := Option.some.inj (last.symm.trans ends)
      exact named proper
    rw [or_iff_right named, LookupsAgree, filed.producerFor?_eq, nameless]
    exact eq_comm

end Wiring

/-- What a request needs is at a path that has its name last. -/
theorem Request.Needs.getLast?_path {options : Options} {request : Request} {key : ConsumerKey}
    (needed : request.Needs options key) : key.path.parts.getLast? = some key.name := by
  by_cases inPath : key.kind = .path
  · cases needed with
    | path parameter declared => rfl
    | query => cases inPath
    | body => cases inPath
  · exact (needed.endsIn inPath).1

/-- In the wiring of a run the look-ups of a value agree, apart from those of a path parameter that
has a producer and whose name is empty or the array marker. -/
theorem Passes.lookupsAgree_of_run_iff {setting : Setting} {result : Result} {key : ConsumerKey}
    (ran : run setting = .ok result) (known : result.wired.wiring.Knows key) :
    result.wired.wiring.LookupsAgree key ↔
      key.kind ≠ .path ∨ (key.name ≠ "" ∧ key.name ≠ AccessPath.arrayItem) ∨
        result.wired.wiring.producerAt? key = none := by
  have filed := filed_of_run ran
  obtain ⟨request, _, needed⟩ := (knows_of_run_iff ran).mp known
  by_cases inPath : key.kind = .path
  · rw [or_iff_right (not_not_intro inPath)]
    exact filed.lookupsAgree_iff needed.getLast?_path
  · exact iff_of_true (filed.lookupsAgree (needed.endsIn inPath)) (.inl inPath)

namespace Wiring

/-- Whatever calls made a wiring, the look-ups of a node of a query parameter or a body agree, and
those of a path parameter agree unless it has a producer and its name is empty or the array marker.
So they do for the values that the wiring of a run knows. -/
theorem lookups_agree (calls : List Call) (setting : Setting) :
    (∀ request place path type convention slot kind link,
      Slot.ofNode? request place path type convention = some slot →
        (Call.performAll empty calls).LookupsAgree (Consumer.key ⟨slot, kind, link⟩)) ∧
    (∀ request name type convention kind link,
      let key := Consumer.key ⟨.ofPathParameter request name type convention, kind, link⟩
      (Call.performAll empty calls).LookupsAgree key ↔
        (name ≠ "" ∧ name ≠ AccessPath.arrayItem) ∨
          (Call.performAll empty calls).producerAt? key = none) ∧
    ∀ result, Passes.run setting = .ok result → ∀ key, result.wired.wiring.Knows key →
      (result.wired.wiring.LookupsAgree key ↔
        key.kind ≠ .path ∨ (key.name ≠ "" ∧ key.name ≠ AccessPath.arrayItem) ∨
          result.wired.wiring.producerAt? key = none) := by
  have filed : (Call.performAll empty calls).Filed := Call.filed_performAll filed_empty calls
  refine ⟨?_, ?_, ?_⟩
  · intro request place path type convention slot kind link made
    obtain ⟨named, located⟩ := Slot.named_of_ofNode? made
    apply filed.lookupsAgree
    show slot.accessPath.EndsIn slot.name
    rwa [located]
  · intro request name type convention kind link
    exact filed.lookupsAgree_iff rfl
  · intro result ran key known
    exact Passes.lookupsAgree_of_run_iff ran known

/-! ## A file under a name -/

/-- The path parameter of a request that puts a file under a name. -/
def fileParameter (name : String) : Consumer :=
  .plain (.ofPathParameter ⟨"/files/\x7b" ++ name ++ "\x7d", .put⟩ name .string none) .path

/-- The identity of the owner in the body of the request. -/
def ownerIdentity (name : String) : Slot :=
  ⟨(fileParameter name).slot.request, "id", .body ⟨["owner", "id"]⟩, none, .string⟩

/-- The calls that connect the parameter with a unique name, and the identity with another. -/
def fileCalls (name : String) : List Call :=
  [.connect ⟨fileParameter name, some (.dictionary (.uniqueName name))⟩,
    .connect ⟨.plain (ownerIdentity name) .body, some (.dictionary (.uniqueName "owner"))⟩]

/-- The request alone. -/
def fileSetting (name : String) : Setting where
  requests :=
    [{ id := (fileParameter name).slot.request
       pathParameters := [⟨name, .leaf (.plain name (.ofType .string))⟩]
       queryParameters := .empty
       bodyParameters := .empty
       response := none
       links := [] }]
  everywhere := []
  dictionary := .empty
  ofEndpoint := .empty
  options := .standard

/-- The look-ups of the identity and of a parameter with a name agree after the calls, and those of
the parameter after the run. -/
theorem fileParameter_lookups_agree :
    (Call.performAll empty (fileCalls "f")).LookupsAgree
      (Consumer.plain (ownerIdentity "f") .body).key ∧
    (Call.performAll empty (fileCalls "f")).LookupsAgree (fileParameter "f").key ∧
    ∃ result, Passes.run (fileSetting "f") = .ok result ∧
      result.wired.wiring.producerAt? (fileParameter "f").key =
        some (.dictionary (.uniqueName "f")) ∧
      result.wired.wiring.LookupsAgree (fileParameter "f").key := by
  obtain ⟨nodes, parameters, values⟩ := lookups_agree (fileCalls "f") (fileSetting "f")
  have node : Slot.ofNode? (fileParameter "f").slot.request .body ⟨["owner", "id"]⟩ .string none =
      some (ownerIdentity "f") := rfl
  refine ⟨nodes _ _ _ _ _ _ .body none node, ?_, ?_⟩
  · exact (parameters _ _ _ _ _ _).mpr (.inl (by decide))
  · have supplied : (Passes.run (fileSetting "f")).toOption.map (fun result =>
        result.wired.wiring.producerAt? (fileParameter "f").key) =
          some (some (.dictionary (.uniqueName "f"))) := by
      decide +kernel
    obtain ⟨result, made, there⟩ := Option.map_eq_some_iff.mp supplied
    have ran := Outcome.ok_of_toOption made
    obtain ⟨connection, found, _⟩ := Option.bind_eq_some_iff.mp there
    have known : result.wired.wiring.Knows (fileParameter "f").key :=
      Option.isSome_of_eq_some found
    exact ⟨result, ran, there, (values result ran _ known).mpr (.inr (.inl (by decide)))⟩

/-- The look-ups of a parameter with the empty name do not agree, neither after the calls nor after
the run: its unique name is recorded, and the look-up by its path does not find it. -/
theorem not_lookupsAgree_unnamed :
    ¬(Call.performAll empty (fileCalls "")).LookupsAgree (fileParameter "").key ∧
    ∃ result, Passes.run (fileSetting "") = .ok result ∧
      ¬result.wired.wiring.LookupsAgree (fileParameter "").key := by
  constructor
  · decide +kernel
  · have differ : (Passes.run (fileSetting "")).toOption.map (fun result =>
        decide (result.wired.wiring.LookupsAgree (fileParameter "").key)) = some false := by
      decide +kernel
    obtain ⟨result, made, disagree⟩ := Option.map_eq_some_iff.mp differ
    exact ⟨result, Outcome.ok_of_toOption made, of_decide_eq_false disagree⟩

end Wiring

end ApiWiring
