import ApiWiring.Proofs.Keyed.Buckets
import ApiWiring.Proofs.Outcome
import ApiWiring.Wiring.Basic

/-!
# Connecting consumers

What one connection changes in the wiring. Connecting and reconnecting do one of three things:
nothing, if the consumer is there and stays as it is; the connection is added, if the consumer is
new; or it takes the place of the consumer's old one, which had no producer or a dictionary entry
(`Change`). So both settle the producer of the consumer's own key and leave every other key as it
was; and the wiring holds no connection that was not put into it.
-/
namespace ApiWiring.Wiring

/-- The producer of a key, if it has one. -/
def producerAt? (wiring : Wiring) (key : ConsumerKey) : Option Producer :=
  (wiring.get? key).bind (·.producer?)

/-! ## The connections that are there -/

/-- The producer of the value at a path is that of a connection of the request. -/
theorem connection_of_producerFor? {wiring : Wiring} {request : RequestId} {kind : ParameterKind}
    {path : AccessPath} {producer : Producer}
    (found : wiring.producerFor? request kind path = some producer) :
    ∃ connection ∈ wiring.connections, connection.consumer.slot.request = request ∧
      connection.consumer.kind = kind ∧ connection.consumer.slot.accessPath = path ∧
        connection.producer? = some producer := by
  simp only [producerFor?, Option.bind_eq_bind, Option.bind_eq_some_iff] at found
  obtain ⟨name, _, connection, sought, supplied⟩ := found
  refine ⟨connection, ?_, ?_⟩
  · exact SortedEntries.mem_allValues_iff.mpr ⟨name, List.mem_of_find?_eq_some sought⟩
  · have matching := List.find?_some sought
    simp only [Bool.and_eq_true, beq_iff_eq] at matching
    exact ⟨matching.1.2, matching.1.1, matching.2, supplied⟩

/-- An exchanged list holds the new connection and old ones only. -/
theorem mem_exchange {key : ConsumerKey} {connection other : Connection} {list : List Connection}
    (member : other ∈ exchange key connection list) : other = connection ∨ other ∈ list := by
  induction list with
  | nil => simp [exchange] at member
  | cons first rest ih =>
    simp only [exchange] at member
    split at member
    · rcases List.mem_cons.mp member with same | later
      · exact .inl same
      · exact .inr (.tail _ later)
    · rcases List.mem_cons.mp member with rfl | later
      · exact .inr (.head _)
      · rcases ih later with same | old
        · exact .inl same
        · exact .inr (.tail _ old)

/-- Exchanging a connection does not show among those of other keys. -/
theorem filter_exchange_of_hidden {connection : Connection} {shown : Connection → Bool}
    (hidden : ∀ other : Connection, other.consumer.key = connection.consumer.key →
      shown other = false) (list : List Connection) :
    (exchange connection.consumer.key connection list).filter shown = list.filter shown := by
  induction list with
  | nil => rfl
  | cons first rest ih =>
    by_cases here : first.consumer.key = connection.consumer.key
    · simp [exchange, here, hidden first here, hidden connection rfl]
    · cases left : shown first <;> simp [exchange, here, left, ih]

/-- Adding a connection adds no other. -/
theorem mem_connections_add {wiring : Wiring} {connection other : Connection}
    (member : other ∈ (wiring.add connection).connections) :
    other = connection ∨ other ∈ wiring.connections := by
  rcases SortedEntries.mem_allValues_alter member with inside | old
  · rcases List.mem_append.mp inside with kept | new
    · exact .inr (SortedEntries.mem_allValues_iff.mpr ⟨_, kept⟩)
    · exact .inl (List.mem_singleton.mp new)
  · exact .inr old

/-- Exchanging a connection adds no other. -/
theorem mem_connections_put {wiring : Wiring} {connection other : Connection}
    (member : other ∈ (wiring.put connection).connections) :
    other = connection ∨ other ∈ wiring.connections := by
  rcases SortedEntries.mem_allValues_alter member with inside | old
  · rcases mem_exchange inside with same | kept
    · exact .inl same
    · exact .inr (SortedEntries.mem_allValues_iff.mpr ⟨_, kept⟩)
  · exact .inr old

/-! ## The connection of a key -/

/-- The connection of a key after a connection was exchanged in a list. -/
theorem find?_exchange {connection : Connection} (list : List Connection) (key : ConsumerKey) :
    (exchange connection.consumer.key connection list).find? (·.consumer.key == key) =
      if key = connection.consumer.key then
        (list.find? (·.consumer.key == key)).map fun _ => connection
      else list.find? (·.consumer.key == key) := by
  induction list with
  | nil => simp [exchange]
  | cons first rest ih =>
    simp only [exchange]
    by_cases own : key = connection.consumer.key
    · subst own
      by_cases here : first.consumer.key = connection.consumer.key
      · simp [here]
      · simpa [here] using ih
    · by_cases here : first.consumer.key = connection.consumer.key
      · simp [here, own, Ne.symm own]
      · simp only [here, if_false, List.find?_cons, ih, own]

/-- After a connection is added, its key has it unless the key had one. -/
theorem get?_add (wiring : Wiring) (connection : Connection) (key : ConsumerKey) :
    (wiring.add connection).get? key =
      (wiring.get? key).or (if key = connection.consumer.key then some connection else none) := by
  have bucketed : (wiring.add connection).byName.bucket key.name =
      wiring.byName.bucket key.name ++
        if key.name = connection.consumer.slot.name then [connection] else [] :=
    SortedEntries.bucket_push _ _ _ _
  simp only [get?, bucketed, List.find?_append]
  by_cases own : key = connection.consumer.key
  · subst own
    simp [Consumer.key]
  · by_cases named : key.name = connection.consumer.slot.name
    · simp [named, own, Ne.symm own]
    · simp [named, own]

/-- After a connection is exchanged, its key has it if the key had one. -/
theorem get?_put (wiring : Wiring) (connection : Connection) (key : ConsumerKey) :
    (wiring.put connection).get? key =
      if key = connection.consumer.key then (wiring.get? key).map fun _ => connection
      else wiring.get? key := by
  have bucketed : (wiring.put connection).byName.bucket key.name =
      if key.name = connection.consumer.slot.name then
        exchange connection.consumer.key connection
          ((wiring.byName.get? connection.consumer.slot.name).getD [])
      else wiring.byName.bucket key.name :=
    SortedEntries.bucket_alter _ _ _ _
  simp only [get?, bucketed]
  by_cases named : key.name = connection.consumer.slot.name
  · rw [if_pos named, find?_exchange, named]
    rfl
  · rw [if_neg named, if_neg (fun own => named (by rw [own]; rfl))]

/-! ## What connecting does -/

/-- What connecting a connection makes of a wiring. -/
inductive Change (wiring : Wiring) (connection : Connection) : Wiring → Outcome → Prop where
  /-- The consumer is there and stays as it is. -/
  | kept (existing : Connection) (found : wiring.get? connection.consumer.key = some existing)
    (agrees : connection.producer? = none ∨ connection.producer? = existing.producer?) :
    Change wiring connection wiring .unchanged
  /-- The consumer is new. -/
  | added (missing : wiring.get? connection.consumer.key = none) :
    Change wiring connection (wiring.add connection) .added
  /-- The consumer is there, and its producer, if it has one, gives way to the new one. -/
  | exchanged (existing : Connection)
    (found : wiring.get? connection.consumer.key = some existing)
    (given : connection.producer?.isSome)
    (yields : ∀ producer, existing.producer? = some producer → producer.isDictionary = true)
    (outcome : Outcome) (changes : outcome ≠ .unchanged) :
    Change wiring connection (wiring.put connection) outcome

variable {wiring next : Wiring} {connection : Connection} {outcome : Outcome}

/-- Connecting is a change. -/
theorem change_of_connect (done : wiring.connect connection = .ok (next, outcome)) :
    wiring.Change connection next outcome := by
  simp only [connect] at done
  split at done
  · rename_i missing
    cases done
    exact .added missing
  · rename_i existing found
    split at done
    · rename_i nothing
      cases done
      exact .kept existing found (.inl nothing)
    · rename_i producer unresolved given
      cases done
      have yields : ∀ producer, existing.producer? = some producer →
          producer.isDictionary = true := by
        intro other had
        rw [unresolved] at had
        cases had
      exact .exchanged existing found (by rw [given]; rfl) yields _ (by decide)
    · rename_i current attempted settled given
      split at done
      · rename_i same
        cases done
        exact .kept existing found (.inr (by rw [given, settled, same]))
      · cases done

/-- Reconnecting is a change. -/
theorem change_of_reconnect (done : wiring.reconnect connection = .ok (next, outcome)) :
    wiring.Change connection next outcome := by
  simp only [reconnect] at done
  split at done
  · rename_i superseded
    cases done
    simp only [supersedes] at superseded
    split at superseded
    · rename_i existing found
      simp only [Bool.and_eq_true] at superseded
      have yields : ∀ producer, existing.producer? = some producer →
          producer.isDictionary = true := by
        intro producer had
        rw [had, Option.any_some] at superseded
        exact superseded.1.1
      exact .exchanged existing found superseded.1.2 yields _ (by decide)
    · cases superseded
  · exact change_of_connect done

/-- Connecting succeeds when the consumer has no producer yet, gets none, or gets the same. -/
theorem connect_succeeds
    (agrees : ∀ current attempted, wiring.producerAt? connection.consumer.key = some current →
      connection.producer? = some attempted → attempted = current) :
    ∃ result, wiring.connect connection = .ok result := by
  unfold connect
  dsimp only
  split
  · exact ⟨_, rfl⟩
  · rename_i existing found
    split
    · exact ⟨_, rfl⟩
    · exact ⟨_, rfl⟩
    · rename_i current attempted settled given
      have there : wiring.producerAt? connection.consumer.key = some current := by
        rw [producerAt?, found]
        exact settled
      have same : attempted = current := agrees current attempted there given
      rw [if_pos same.symm]
      exact ⟨_, rfl⟩

/-- Reconnecting a consumer with a producer succeeds when the consumer has no producer yet, a
dictionary entry, or the same producer. -/
theorem reconnect_succeeds (given : connection.producer?.isSome)
    (agrees : ∀ current, wiring.producerAt? connection.consumer.key = some current →
      current.isDictionary = true ∨ connection.producer? = some current) :
    ∃ result, wiring.reconnect connection = .ok result := by
  unfold reconnect
  split
  · exact ⟨_, rfl⟩
  · rename_i standing
    refine connect_succeeds fun current attempted there attempts => ?_
    rcases agrees current there with entry | same
    · obtain ⟨existing, found, settled⟩ := Option.bind_eq_some_iff.mp there
      by_contra other
      refine standing ?_
      have differs : existing.producer? ≠ connection.producer? := by
        rw [settled, attempts, ne_eq, Option.some.injEq]
        exact Ne.symm other
      simp only [supersedes, found, settled, Option.any_some, entry, given, Bool.and_self,
        Bool.true_and, bne_iff_ne]
      rwa [settled] at differs
    · exact Option.some.inj (attempts.symm.trans same)

/-- A change adds no connection other than the one given. -/
theorem Change.mem_connections (change : wiring.Change connection next outcome)
    {other : Connection} (member : other ∈ next.connections) :
    other = connection ∨ other ∈ wiring.connections := by
  cases change with
  | kept existing found agrees => exact .inr member
  | added missing => exact mem_connections_add member
  | exchanged existing found given yields outcome changes => exact mem_connections_put member

/-- A change does not show among the connections of other keys. -/
theorem Change.filter_bucket (change : wiring.Change connection next outcome)
    {shown : Connection → Bool}
    (hidden : ∀ other : Connection, other.consumer.key = connection.consumer.key →
      shown other = false) (name : String) :
    (next.byName.bucket name).filter shown = (wiring.byName.bucket name).filter shown := by
  cases change with
  | kept existing found agrees => rfl
  | added missing =>
    rw [add, SortedEntries.bucket_push, List.filter_append]
    split <;> simp [hidden connection rfl]
  | exchanged existing found given yields outcome changes =>
    rw [put, SortedEntries.bucket_alter]
    split
    · rename_i named
      rw [filter_exchange_of_hidden hidden, named, SortedEntries.bucket]
    · rfl

/-- A change settles the producer of the consumer's key and no other. -/
theorem Change.producerAt? (change : wiring.Change connection next outcome) (key : ConsumerKey) :
    next.producerAt? key =
      if key = connection.consumer.key then connection.producer?.or (wiring.producerAt? key)
      else wiring.producerAt? key := by
  by_cases own : key = connection.consumer.key
  · rw [if_pos own, own]
    cases change with
    | kept existing found agrees =>
      have there : wiring.producerAt? connection.consumer.key = existing.producer? := by
        rw [Wiring.producerAt?, found]
        rfl
      rw [there]
      rcases agrees with nothing | same
      · rw [nothing]
        rfl
      · rw [same, Option.or_self]
    | added missing => simp [Wiring.producerAt?, get?_add, missing]
    | exchanged existing found given yields outcome changes =>
      obtain ⟨producer, given⟩ := Option.isSome_iff_exists.mp given
      simp [Wiring.producerAt?, get?_put, found, given]
  · rw [if_neg own]
    cases change with
    | kept existing found agrees => rfl
    | added missing => simp [Wiring.producerAt?, get?_add, own]
    | exchanged existing found given yields outcome changes =>
      simp [Wiring.producerAt?, get?_put, own]

/-- Connecting leaves a producer that is there. -/
theorem producerAt?_of_connect (done : wiring.connect connection = .ok (next, outcome))
    {key : ConsumerKey} {producer : Producer} (there : wiring.producerAt? key = some producer) :
    next.producerAt? key = some producer := by
  rw [(change_of_connect done).producerAt?]
  split
  · rename_i own
    subst own
    cases given : connection.producer? with
    | none => exact there
    | some attempted =>
      obtain ⟨existing, found, settled⟩ := Option.bind_eq_some_iff.mp there
      simp only [connect, found, settled, given] at done
      split at done
      · rename_i same
        rw [same]
        rfl
      · cases done
  · exact there

end ApiWiring.Wiring
