import ApiWiring.Proofs.Wiring.Connecting
import Mathlib.Data.List.Find
import Mathlib.Data.List.Nodup

/-!
# What a wiring holds

Every connection of a wiring is found under the name of its consumer and every consumer has one
(`Filed`). A change keeps it so: it makes the wiring know the consumer of its connection and no
other, and the wiring gains a consumer supplied from its own body exactly when the change connects
one and does not leave everything as it is.
-/
namespace ApiWiring

/-- Whether a connection is supplied by a property of the consumer's own body. -/
def Connection.bySibling (connection : Connection) : Bool :=
  connection.producer?.any Producer.isSibling

/-- A connection without producer or with a dictionary entry is not supplied by a sibling. -/
theorem Connection.bySibling_of_yields {connection : Connection}
    (yields : ∀ producer, connection.producer? = some producer → producer.isDictionary = true) :
    connection.bySibling = false := by
  rw [bySibling]
  cases given : connection.producer? with
  | none => rfl
  | some producer =>
    have entry := yields producer given
    cases producer with
    | response slot => cases entry
    | dictionary payload => rfl
    | sibling slot => cases entry

namespace Wiring

variable {wiring next : Wiring} {connection : Connection} {outcome : Outcome} {key : ConsumerKey}

/-- The keys of the consumers. -/
def keys (wiring : Wiring) : List ConsumerKey := wiring.connections.map (·.consumer.key)

/-- Whether a consumer of a key is there. -/
def Knows (wiring : Wiring) (key : ConsumerKey) : Prop := (wiring.get? key).isSome

/-- Whether every connection is among those of its name and every consumer has one connection. -/
structure Filed (wiring : Wiring) : Prop where
  /-- The connections under a name are those of consumers with this name. -/
  named : ∀ name, ∀ connection ∈ wiring.byName.bucket name, connection.consumer.slot.name = name
  /-- No key occurs twice. -/
  distinct : wiring.keys.Nodup

/-! ## Consumers -/

/-- After a change the wiring knows the consumer of the connection and those it knew. -/
theorem Change.knows_iff (change : wiring.Change connection next outcome) :
    next.Knows key ↔ wiring.Knows key ∨ connection.consumer.key = key := by
  cases change with
  | kept existing found agrees =>
    have known : connection.consumer.key = key → wiring.Knows key := by
      rintro rfl
      rw [Knows, found]
      rfl
    exact (or_iff_left_of_imp known).symm
  | added missing =>
    rw [Knows, Knows, get?_add, Option.isSome_or, Bool.or_eq_true]
    by_cases own : key = connection.consumer.key
    · simp [own]
    · simp [own, Ne.symm own]
  | exchanged existing found given yields outcome changes =>
    rw [Knows, Knows, get?_put]
    by_cases own : key = connection.consumer.key
    · simp [own, found]
    · simp [own, Ne.symm own]

/-- The connection found under a key is that of a consumer with this key. -/
theorem key_of_get? (found : wiring.get? key = some connection) :
    connection.consumer.key = key := by
  have matching := List.find?_some found
  exact beq_iff_eq.mp matching

/-- The connection found under a key is there. -/
theorem mem_connections_of_get? (found : wiring.get? key = some connection) :
    connection ∈ wiring.connections :=
  SortedEntries.mem_allValues_iff.mpr ⟨_, List.mem_of_find?_eq_some found⟩

/-- Nothing is known to the empty wiring. -/
theorem not_knows_empty : ¬empty.Knows key := by
  simp [Knows, empty, get?, SortedEntries.bucket, SortedEntries.get?, SortedEntries.empty]

/-- The keys of a filed wiring are those of the consumers that it knows. -/
theorem Filed.mem_keys_iff (filed : wiring.Filed) : key ∈ wiring.keys ↔ wiring.Knows key := by
  rw [keys, List.mem_map, Knows, get?, List.find?_isSome]
  constructor
  · rintro ⟨connection, member, rfl⟩
    obtain ⟨name, inside⟩ := SortedEntries.mem_allValues_iff.mp member
    have called := filed.named name connection inside
    refine ⟨connection, ?_, beq_self_eq_true _⟩
    rw [← called] at inside
    exact inside
  · rintro ⟨connection, inside, same⟩
    exact ⟨connection, SortedEntries.mem_allValues_iff.mpr ⟨_, inside⟩, beq_iff_eq.mp same⟩

/-- In a filed wiring a connection is the one found under its key. -/
theorem Filed.get?_of_mem (filed : wiring.Filed) (member : connection ∈ wiring.connections) :
    wiring.get? connection.consumer.key = some connection := by
  have known : wiring.Knows connection.consumer.key :=
    filed.mem_keys_iff.mp (List.mem_map_of_mem member)
  obtain ⟨other, found⟩ := Option.isSome_iff_exists.mp known
  have same := List.inj_on_of_nodup_map filed.distinct (mem_connections_of_get? found) member
    (key_of_get? found)
  rw [found, same]

/-- In a filed wiring the producer of the value at a path is that of the key with the name in which
the path ends. -/
theorem Filed.producerFor?_eq (filed : wiring.Filed) (request : RequestId) (kind : ParameterKind)
    (path : AccessPath) : wiring.producerFor? request kind path =
      path.resourceName?.bind fun name => wiring.producerAt? ⟨request, kind, name, path⟩ := by
  rw [producerFor?, Option.bind_eq_bind]
  congr 1
  funext name
  have same : (wiring.byName.bucket name).find? (fun connection =>
        connection.consumer.kind == kind && connection.consumer.slot.request == request &&
          connection.consumer.slot.accessPath == path) =
      wiring.get? ⟨request, kind, name, path⟩ := by
    rw [get?]
    refine List.find?_congr fun connection member => ?_
    have called := filed.named name connection member
    rw [Bool.eq_iff_iff]
    simp only [Consumer.key, called, Bool.and_eq_true, beq_iff_eq, ConsumerKey.mk.injEq]
    tauto
  rw [same]
  rfl

/-- In a filed wiring a value with a producer at its path has a name, and its key has the producer.
-/
theorem Filed.producerAt?_of_producerFor? (filed : wiring.Filed) {request : RequestId}
    {kind : ParameterKind} {path : AccessPath} {producer : Producer}
    (found : wiring.producerFor? request kind path = some producer) :
    ∃ name, path.resourceName? = some name ∧
      wiring.producerAt? ⟨request, kind, name, path⟩ = some producer := by
  rw [filed.producerFor?_eq, Option.bind_eq_some_iff] at found
  exact found

/-! ## Connections up to the order -/

/-- An exchanged list has the new connection instead of the first one of the key. -/
theorem exchange_perm (connection : Connection) {list : List Connection} {existing : Connection}
    (found : list.find? (·.consumer.key == key) = some existing) :
    ∃ rest, list.Perm (existing :: rest) ∧
      (exchange key connection list).Perm (connection :: rest) := by
  induction list with
  | nil => cases found
  | cons first others ih =>
    by_cases here : first.consumer.key = key
    · rw [List.find?_cons, beq_iff_eq.mpr here, Option.some.injEq] at found
      rw [exchange, if_pos here, found]
      exact ⟨others, .refl _, .refl _⟩
    · have later : others.find? (·.consumer.key == key) = some existing := by
        rwa [List.find?_cons, beq_false_of_ne here] at found
      obtain ⟨rest, before, after⟩ := ih later
      rw [exchange, if_neg here]
      refine ⟨first :: rest, ?_, ?_⟩
      · exact (before.cons first).trans (.swap existing first rest)
      · exact (after.cons first).trans (.swap connection first rest)

/-- Adding adds the connection. -/
theorem connections_add_perm (wiring : Wiring) (connection : Connection) :
    (wiring.add connection).connections.Perm (connection :: wiring.connections) := by
  have grown : (wiring.add connection).connections.Perm ([connection] ++ wiring.connections) := by
    refine SortedEntries.flatMap_alter_gains _ _ _ _ ?_
    cases wiring.byName.get? connection.consumer.slot.name with
    | none => exact .refl _
    | some bucket => exact List.perm_append_comm
  exact grown

/-- Exchanging puts the connection in the place of the one found. -/
theorem connections_put_perm {existing : Connection}
    (found : wiring.get? connection.consumer.key = some existing) :
    ∃ rest, wiring.connections.Perm (existing :: rest) ∧
      (wiring.put connection).connections.Perm (connection :: rest) := by
  let name := connection.consumer.key.name
  let elsewhere := (wiring.byName.others name).flatMap (·.2)
  obtain ⟨rest, before, after⟩ := exchange_perm connection found
  have own : (wiring.byName.get? name).elim [] id = wiring.byName.bucket name := by
    rw [SortedEntries.bucket]
    cases wiring.byName.get? name <;> rfl
  have opened : wiring.connections.Perm (wiring.byName.bucket name ++ elsewhere) := by
    rw [← own]
    exact SortedEntries.flatMap_perm wiring.byName name (·.2)
  have changed : (wiring.put connection).connections.Perm
      (exchange connection.consumer.key connection (wiring.byName.bucket name) ++ elsewhere) :=
    SortedEntries.flatMap_alter_perm _ _ _ _
  refine ⟨rest ++ elsewhere, ?_, ?_⟩
  · exact opened.trans (before.append_right elsewhere)
  · exact changed.trans (after.append_right elsewhere)

/-- The empty wiring is filed. -/
theorem filed_empty : empty.Filed where
  named _ _ member := absurd member List.not_mem_nil
  distinct := .nil

/-- A change keeps a wiring filed. -/
theorem Change.filed (change : wiring.Change connection next outcome) (filed : wiring.Filed) :
    next.Filed := by
  cases change with
  | kept existing found agrees => exact filed
  | added missing =>
    constructor
    · intro name other member
      rw [add, SortedEntries.bucket_push, List.mem_append] at member
      rcases member with old | new
      · exact filed.named name other old
      · split at new
        · rename_i called
          rw [List.mem_singleton.mp new, called]
        · exact absurd new List.not_mem_nil
    · have fresh : connection.consumer.key ∉ wiring.keys := by
        rw [filed.mem_keys_iff, Knows, missing]
        exact Bool.false_ne_true
      have listed := (connections_add_perm wiring connection).map (·.consumer.key)
      exact listed.nodup_iff.mpr (List.nodup_cons.mpr ⟨fresh, filed.distinct⟩)
  | exchanged existing found given yields outcome changes =>
    constructor
    · intro name other member
      rw [put, SortedEntries.bucket_alter] at member
      split at member
      · rename_i called
        rcases mem_exchange member with rfl | old
        · exact called.symm
        · rw [called]
          exact filed.named _ other old
      · exact filed.named name other member
    · obtain ⟨rest, before, after⟩ := connections_put_perm found
      have same := key_of_get? found
      have old := before.map (·.consumer.key)
      have new := after.map (·.consumer.key)
      rw [List.map_cons, same] at old
      exact (new.trans old.symm).nodup_iff.mpr filed.distinct

/-- A change adds a sibling when it changes something and its connection is supplied by one. -/
theorem Change.countP_bySibling (change : wiring.Change connection next outcome) :
    next.connections.countP Connection.bySibling =
      wiring.connections.countP Connection.bySibling +
        (outcome != .unchanged && connection.bySibling).toNat := by
  cases change with
  | kept existing found agrees => rfl
  | added missing =>
    rw [(connections_add_perm wiring connection).countP_eq, List.countP_cons]
    cases connection.bySibling <;> rfl
  | exchanged existing found given yields outcome changes =>
    obtain ⟨rest, before, after⟩ := connections_put_perm found
    rw [before.countP_eq, after.countP_eq, List.countP_cons, List.countP_cons,
      Connection.bySibling_of_yields yields, bne_iff_ne.mpr changes]
    cases connection.bySibling <;> rfl

end Wiring

end ApiWiring
