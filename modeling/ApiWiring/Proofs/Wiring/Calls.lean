import ApiWiring.Proofs.Keyed.Keys
import ApiWiring.Proofs.Keyed.Readings
import ApiWiring.Proofs.Wiring.Filing

/-!
# Calls on a wiring

A wiring is made by calls that connect or reconnect, each done in place: the list of the consumer's
name is begun before its connections are looked through, and a call that fails leaves the wiring as
it stands then. A call has one of five effects (`Call.Effect`), told by what it reports, and touches
no connection of another key. So whatever calls are made on the empty wiring, the ones that fail
included, the wiring is filed, and what it knows only grows (`Growth`): keys stay, a consumer with a
producer keeps one, and a producer that is no dictionary entry is kept for good.
-/
namespace ApiWiring

namespace Wiring

variable {wiring : Wiring} {connection : Connection} {key : ConsumerKey}

/-! ## Connecting in place -/

/-- The wiring with a list under a name, begun if there is none. -/
def opened (wiring : Wiring) (name : String) : Wiring := ⟨wiring.byName.alter name (·.getD [])⟩

/-- Puts a connection into the wiring in place: the wiring after it, and the outcome. -/
def connectInPlace (wiring : Wiring) (connection : Connection) :
    Wiring × Except Failure Outcome :=
  let key := connection.consumer.key
  let wiring := wiring.opened key.name
  match wiring.get? key with
  | none => (wiring.add connection, .ok .added)
  | some existing =>
    match existing.producer?, connection.producer? with
    | _, none => (wiring, .ok .unchanged)
    | none, some _ => (wiring.put connection, .ok .resolved)
    | some current, some attempted =>
      if current = attempted then (wiring, .ok .unchanged)
      else (wiring, .error (.conflictingProducers key current attempted))

/-- Puts a connection into the wiring in place; a dictionary entry gives way to a different
producer. -/
def reconnectInPlace (wiring : Wiring) (connection : Connection) :
    Wiring × Except Failure Outcome :=
  if wiring.supersedes connection then
    ((wiring.opened connection.consumer.key.name).put connection, .ok .replaced)
  else wiring.connectInPlace connection

/-- The wiring that a call leaves which makes a new wiring or fails, with the outcome. -/
def left (wiring : Wiring) : Except Failure (Wiring × Outcome) → Wiring × Except Failure Outcome
  | .ok (next, outcome) => (next, .ok outcome)
  | .error failure => (wiring, .error failure)

/-- Beginning a list puts no connection anywhere. -/
theorem get?_opened (wiring : Wiring) (name : String) :
    (wiring.opened name).get? key = wiring.get? key := by
  have bucketed : (wiring.opened name).byName.bucket key.name = wiring.byName.bucket key.name := by
    rw [opened, SortedEntries.bucket_alter]
    split
    · rename_i same
      rw [same, SortedEntries.bucket]
    · rfl
  rw [get?, get?, bucketed]

/-- The list of a name with a connection is there. -/
theorem opened_of_get? {existing : Connection} (found : wiring.get? key = some existing) :
    wiring.opened key.name = wiring := by
  have member := List.mem_of_find?_eq_some found
  rw [SortedEntries.bucket] at member
  cases listed : wiring.byName.get? key.name with
  | none =>
    rw [listed] at member
    exact absurd member List.not_mem_nil
  | some bucket => rw [opened, SortedEntries.alter_of_get? listed rfl]

/-- A connection is added to a list that was begun as to one that was not. -/
theorem add_opened (wiring : Wiring) (connection : Connection) :
    (wiring.opened connection.consumer.key.name).add connection = wiring.add connection := by
  rw [add, add, opened, SortedEntries.push, SortedEntries.push]
  exact congrArg Wiring.mk (SortedEntries.alter_alter _ _ _ _)

/-- Connecting in place leaves the wiring that connecting makes, and the same one if it fails. -/
theorem connectInPlace_eq (wiring : Wiring) (connection : Connection) :
    wiring.connectInPlace connection = wiring.left (wiring.connect connection) := by
  unfold connectInPlace connect
  dsimp only
  rw [get?_opened]
  cases found : wiring.get? connection.consumer.key with
  | none => exact congrArg (·, _) (add_opened wiring connection)
  | some existing =>
    -- The list has a connection, so beginning it changed nothing and a failure leaves no trace.
    rw [opened_of_get? found]
    dsimp only
    cases existing.producer? with
    | none => cases connection.producer? <;> rfl
    | some current =>
      cases connection.producer? with
      | none => rfl
      | some attempted =>
        dsimp only
        split <;> rfl

/-- Reconnecting in place leaves the wiring that reconnecting makes, and the same one if it fails.
-/
theorem reconnectInPlace_eq (wiring : Wiring) (connection : Connection) :
    wiring.reconnectInPlace connection = wiring.left (wiring.reconnect connection) := by
  unfold reconnectInPlace reconnect
  split
  · rename_i superseded
    unfold supersedes at superseded
    split at superseded
    · rename_i existing found
      rw [opened_of_get? found, left]
    · cases superseded
  · exact connectInPlace_eq wiring connection

end Wiring

open Wiring (Outcome)

/-- A call on a wiring. -/
inductive Call where
  /-- To connect. -/
  | connect (connection : Connection)
  /-- To reconnect. -/
  | reconnect (connection : Connection)
deriving DecidableEq, Repr, Inhabited

namespace Call

/-- The connection that a call is made with. -/
def connection : Call → Connection
  | .connect connection => connection
  | .reconnect connection => connection

/-- The key of the consumer that a call is made with. -/
def key (call : Call) : ConsumerKey := call.connection.consumer.key

/-- Whether a dictionary entry gives way in a call. -/
def replaces : Call → Bool
  | .connect _ => false
  | .reconnect _ => true

/-- The wiring after a call, and what the call reports. -/
def perform (wiring : Wiring) : Call → Wiring × Except Failure Outcome
  | .connect connection => wiring.connectInPlace connection
  | .reconnect connection => wiring.reconnectInPlace connection

/-- The wiring after calls on a wiring, whatever they report. -/
def performAll (wiring : Wiring) (calls : List Call) : Wiring :=
  calls.foldl (fun wiring call => (call.perform wiring).1) wiring

/-! ## One call -/

/-- What a call changes in the connection of its key, by what it reports. -/
inductive Effect (wiring next : Wiring) (call : Call) : Except Failure Outcome → Prop where
  /-- The consumer is new. -/
  | added (missing : wiring.get? call.key = none)
    (there : next.get? call.key = some call.connection) : Effect wiring next call (.ok .added)
  /-- The consumer had no producer and gets one. -/
  | resolved (existing : Connection) (found : wiring.get? call.key = some existing)
    (unresolved : existing.producer? = none) (given : call.connection.producer?.isSome)
    (there : next.get? call.key = some call.connection) : Effect wiring next call (.ok .resolved)
  /-- The consumer had a dictionary entry, which gives way to a different producer. -/
  | replaced (existing : Connection) (entry : CustomPayload) (attempted : Producer)
    (found : wiring.get? call.key = some existing)
    (had : existing.producer? = some (.dictionary entry))
    (given : call.connection.producer? = some attempted) (differs : attempted ≠ .dictionary entry)
    (replaces : call.replaces = true) (there : next.get? call.key = some call.connection) :
    Effect wiring next call (.ok .replaced)
  /-- The consumer is there, with the same producer if the call has one. -/
  | unchanged (existing : Connection) (found : wiring.get? call.key = some existing)
    (agrees : call.connection.producer? = none ∨ call.connection.producer? = existing.producer?)
    (same : next = wiring) : Effect wiring next call (.ok .unchanged)
  /-- The consumer has a different producer, which does not give way. -/
  | refused (existing : Connection) (current attempted : Producer)
    (found : wiring.get? call.key = some existing) (had : existing.producer? = some current)
    (given : call.connection.producer? = some attempted) (differs : attempted ≠ current)
    (firm : call.replaces = true → current.isDictionary = false) (same : next = wiring) :
    Effect wiring next call (.error (.conflictingProducers call.key current attempted))

variable {wiring next : Wiring} {call : Call} {report : Except Failure Outcome}
  {key : ConsumerKey}

/-- A call leaves the wiring that connecting or reconnecting makes, and the same one if it fails. -/
theorem perform_eq (wiring : Wiring) (call : Call) :
    call.perform wiring =
      wiring.left (if call.replaces then wiring.reconnect call.connection
        else wiring.connect call.connection) := by
  cases call with
  | connect connection => exact wiring.connectInPlace_eq connection
  | reconnect connection => exact wiring.reconnectInPlace_eq connection

/-- The connection of a call that is exchanged is there. -/
theorem get?_put_self {existing : Connection} (found : wiring.get? call.key = some existing) :
    (wiring.put call.connection).get? call.key = some call.connection := by
  rw [key] at found
  rw [key, Wiring.get?_put, if_pos rfl, found]
  rfl

/-- Where no dictionary entry gives way, connecting has the effect of the call. -/
theorem effect_of_standing
    (standing : call.replaces = true → wiring.supersedes call.connection = false) :
    Effect wiring (wiring.left (wiring.connect call.connection)).1 call
      (wiring.left (wiring.connect call.connection)).2 := by
  cases found : wiring.get? call.connection.consumer.key with
  | none =>
    have made : wiring.connect call.connection = .ok (wiring.add call.connection, .added) := by
      simp only [Wiring.connect, found]
    rw [made]
    refine .added found ?_
    rw [key, Wiring.left, Wiring.get?_add, found, if_pos rfl]
    rfl
  | some existing =>
    cases given : call.connection.producer? with
    | none =>
      have made : wiring.connect call.connection = .ok (wiring, .unchanged) := by
        simp only [Wiring.connect, found, given]
      rw [made]
      exact .unchanged existing found (.inl given) rfl
    | some attempted =>
      cases had : existing.producer? with
      | none =>
        have made : wiring.connect call.connection =
            .ok (wiring.put call.connection, .resolved) := by
          simp only [Wiring.connect, found, had, given]
        rw [made]
        exact .resolved existing found had (by rw [given]; rfl) (get?_put_self found)
      | some current =>
        by_cases same : current = attempted
        · have made : wiring.connect call.connection = .ok (wiring, .unchanged) := by
            simp only [Wiring.connect, found, had, given, if_pos same]
          rw [made]
          exact .unchanged existing found (.inr (by rw [given, had, same])) rfl
        · have made : wiring.connect call.connection =
              .error (.conflictingProducers call.key current attempted) := by
            simp only [Wiring.connect, found, had, given, if_neg same, key]
          rw [made]
          refine .refused existing current attempted found had given (Ne.symm same) ?_ rfl
          intro replaces
          have stands := standing replaces
          simpa [Wiring.supersedes, found, had, given, same] using stands

/-- A call has one of the five effects. -/
theorem effect (wiring : Wiring) (call : Call) :
    Effect wiring (call.perform wiring).1 call (call.perform wiring).2 := by
  rw [perform_eq]
  cases call with
  | connect connection => exact effect_of_standing (by intro never; cases never)
  | reconnect connection =>
    rw [replaces, if_pos rfl, Wiring.reconnect]
    split
    · rename_i superseded
      unfold Wiring.supersedes at superseded
      split at superseded
      · rename_i existing found
        simp only [Bool.and_eq_true, bne_iff_ne] at superseded
        obtain ⟨⟨entered, given⟩, differs⟩ := superseded
        obtain ⟨attempted, given⟩ := Option.isSome_iff_exists.mp given
        cases had : existing.producer? with
        | none =>
          rw [had] at entered
          cases entered
        | some current =>
          rw [had] at entered differs
          cases current with
          | dictionary entry =>
            refine .replaced existing entry attempted found had given ?_ rfl (get?_put_self found)
            rintro rfl
            exact differs given.symm
          | response slot | sibling slot => cases entered
      · cases superseded
    · rename_i standing
      exact effect_of_standing fun _ => Bool.eq_false_iff.mpr standing

/-- A call changes the wiring as connecting does, or leaves it as it is. -/
theorem change_or_same (wiring : Wiring) (call : Call) :
    (∃ outcome, wiring.Change call.connection (call.perform wiring).1 outcome) ∨
      (call.perform wiring).1 = wiring := by
  rw [perform_eq]
  split
  · cases done : wiring.reconnect call.connection with
    | ok result => exact .inl ⟨result.2, Wiring.change_of_reconnect done⟩
    | error failure => exact .inr rfl
  · cases done : wiring.connect call.connection with
    | ok result => exact .inl ⟨result.2, Wiring.change_of_connect done⟩
    | error failure => exact .inr rfl

/-- A call leaves a filed wiring filed. -/
theorem filed_perform (filed : wiring.Filed) (call : Call) : (call.perform wiring).1.Filed := by
  rcases change_or_same wiring call with ⟨outcome, change⟩ | same
  · exact change.filed filed
  · rwa [same]

/-- A call leaves the connections of other keys in their places. -/
theorem connections_perform (wiring : Wiring) (call : Call) :
    (call.perform wiring).1.connections.filter (·.consumer.key != call.key) =
      wiring.connections.filter (·.consumer.key != call.key) := by
  rcases change_or_same wiring call with ⟨outcome, change⟩ | same
  · refine SortedEntries.filter_allValues_congr _ fun name => change.filter_bucket ?_ name
    exact fun other same => bne_eq_false_iff_eq.mpr same
  · rw [same]

/-- A call leaves the connection of every other key. -/
theorem get?_perform (wiring : Wiring) (call : Call) (other : key ≠ call.key) :
    (call.perform wiring).1.get? key = wiring.get? key := by
  rcases change_or_same wiring call with ⟨outcome, change⟩ | same
  · have hidden : ∀ connection : Connection, connection.consumer.key = call.key →
        (connection.consumer.key == key) = false := by
      intro connection same
      rw [same]
      exact beq_eq_false_iff_ne.mpr (Ne.symm other)
    rw [Wiring.get?, Wiring.get?, ← List.head?_filter, ← List.head?_filter,
      change.filter_bucket hidden]
  · rw [same]

/-- A call fails when its consumer has a producer, the call a different one, and the former does not
give way. -/
theorem fails_iff (wiring : Wiring) (call : Call) :
    (∃ failure, (call.perform wiring).2 = .error failure) ↔
      ∃ current attempted, wiring.producerAt? call.key = some current ∧
        call.connection.producer? = some attempted ∧ attempted ≠ current ∧
          (call.replaces = true → current.isDictionary = false) := by
  have effect := effect wiring call
  generalize call.perform wiring = performed at effect
  obtain ⟨next, report⟩ := performed
  dsimp only at effect ⊢
  have producerAt : ∀ {existing : Connection}, wiring.get? call.key = some existing →
      wiring.producerAt? call.key = existing.producer? := by
    intro existing found
    rw [Wiring.producerAt?, found]
    rfl
  constructor
  · rintro ⟨failure, rfl⟩
    cases effect with
    | refused existing current attempted found had given differs firm same =>
      exact ⟨current, attempted, (producerAt found).trans had, given, differs, firm⟩
  · rintro ⟨current, attempted, had, given, differs, firm⟩
    cases effect with
    | added missing there =>
      rw [Wiring.producerAt?, missing] at had
      cases had
    | resolved existing found unresolved _ there =>
      rw [producerAt found, unresolved] at had
      cases had
    | replaced existing entry other found entered _ _ replaces there =>
      rw [producerAt found, entered, Option.some.injEq] at had
      subst had
      cases firm replaces
    | unchanged existing found agrees same =>
      rw [producerAt found] at had
      rw [given, had] at agrees
      rcases agrees with nothing | same
      · cases nothing
      · exact absurd (Option.some.inj same) differs
    | refused => exact ⟨_, rfl⟩

/-- A call leaves the wiring as it is, or puts its connection there, for a consumer that had no
producer or gets another one for its dictionary entry. -/
theorem Effect.own (effect : Effect wiring next call report) :
    next = wiring ∨ next.get? call.key = some call.connection ∧
      ∀ existing producer, wiring.get? call.key = some existing →
        existing.producer? = some producer →
          producer.isDictionary = true ∧ call.replaces = true ∧
            ∃ attempted, call.connection.producer? = some attempted ∧ attempted ≠ producer := by
  cases effect with
  | added missing there =>
    refine .inr ⟨there, fun existing producer found _ => ?_⟩
    rw [missing] at found
    cases found
  | resolved existing found unresolved given there =>
    refine .inr ⟨there, fun other producer same had => ?_⟩
    rw [found, Option.some.injEq] at same
    rw [← same, unresolved] at had
    cases had
  | replaced existing entry attempted found entered given differs replaces there =>
    refine .inr ⟨there, fun other producer same had => ?_⟩
    rw [found, Option.some.injEq] at same
    rw [← same, entered, Option.some.injEq] at had
    subst had
    exact ⟨rfl, replaces, attempted, given, differs⟩
  | unchanged existing found agrees same => exact .inl same
  | refused existing current attempted found had given differs firm same => exact .inl same

/-- A connection with a producer is exchanged only if this is a dictionary entry, by reconnecting
the consumer with a different producer. -/
theorem exchanged_of_perform {existing : Connection} {producer : Producer}
    (found : wiring.get? key = some existing) (had : existing.producer? = some producer)
    (changed : (call.perform wiring).1.get? key ≠ some existing) :
    producer.isDictionary = true ∧ call = .reconnect call.connection ∧ call.key = key ∧
      (call.perform wiring).1.get? key = some call.connection ∧
        ∃ attempted, call.connection.producer? = some attempted ∧ attempted ≠ producer := by
  have own : key = call.key := by
    by_contra other
    exact changed ((get?_perform wiring call other).trans found)
  subst own
  rcases (effect wiring call).own with same | ⟨there, yields⟩
  · rw [same] at changed
    exact absurd found changed
  · obtain ⟨isEntry, replaces, supplied⟩ := yields existing producer found had
    refine ⟨isEntry, ?_, rfl, there, supplied⟩
    cases call with
    | connect connection => cases replaces
    | reconnect connection => rfl

/-! ## Many calls -/

/-- Whether a wiring still knows what it knew earlier. -/
structure Growth (earlier later : Wiring) : Prop where
  /-- A consumer stays. -/
  keys : ∀ key, earlier.Knows key → later.Knows key
  /-- A consumer with a producer keeps one. -/
  resolved : ∀ key, (earlier.producerAt? key).isSome → (later.producerAt? key).isSome
  /-- A consumer with a producer that is no dictionary entry stays as it is. -/
  firm : ∀ key existing producer, earlier.get? key = some existing →
    existing.producer? = some producer → producer.isDictionary = false →
      later.get? key = some existing

/-- A wiring knows what it knows. -/
theorem Growth.refl (wiring : Wiring) : Growth wiring wiring where
  keys _ := id
  resolved _ := id
  firm _ _ _ found _ _ := found

/-- What is still known later is still known after that. -/
theorem Growth.trans {first middle last : Wiring} (earlier : Growth first middle)
    (later : Growth middle last) : Growth first last where
  keys key known := later.keys key (earlier.keys key known)
  resolved key settled := later.resolved key (earlier.resolved key settled)
  firm key existing producer found had plain :=
    later.firm key existing producer (earlier.firm key existing producer found had plain) had plain

/-- After a call the wiring still knows what it knew. -/
theorem growth_perform (wiring : Wiring) (call : Call) :
    Growth wiring (call.perform wiring).1 where
  keys key known := by
    by_cases own : key = call.key
    · subst own
      rcases (effect wiring call).own with same | ⟨there, _⟩
      · rwa [same]
      · rw [Wiring.Knows, there]
        rfl
    · rwa [Wiring.Knows, get?_perform wiring call own]
  resolved key settled := by
    obtain ⟨producer, there⟩ := Option.isSome_iff_exists.mp settled
    obtain ⟨existing, found, had⟩ := Option.bind_eq_some_iff.mp there
    by_cases stays : (call.perform wiring).1.get? key = some existing
    · rw [Wiring.producerAt?, stays, Option.bind_some, had]
      rfl
    · obtain ⟨_, _, _, present, attempted, given, _⟩ := exchanged_of_perform found had stays
      rw [Wiring.producerAt?, present, Option.bind_some, given]
      rfl
  firm key existing producer found had plain := by
    by_contra changed
    rw [(exchanged_of_perform found had changed).1] at plain
    cases plain

/-- After calls the wiring still knows what it knew. -/
theorem growth_performAll (wiring : Wiring) (calls : List Call) :
    Growth wiring (performAll wiring calls) := by
  induction calls generalizing wiring with
  | nil => exact .refl wiring
  | cons call rest ih => exact (growth_perform wiring call).trans (ih _)

/-- Calls leave a filed wiring filed. -/
theorem filed_performAll (filed : wiring.Filed) (calls : List Call) :
    (performAll wiring calls).Filed := by
  induction calls generalizing wiring with
  | nil => exact filed
  | cons call rest ih => exact ih (filed_perform filed call)

/-- Whatever calls are made on the empty wiring, the ones that fail included: no key occurs twice,
every connection is among those of its name, and what is known then is still known after any more
calls. One more call leaves what connecting or reconnecting makes of the wiring. It exchanges the
connection of a consumer with a dictionary entry only by reconnecting it with a different producer;
it fails exactly when its consumer has a producer, the call a different one, and the former does not
give way; when it fails the wiring is the same; what it reports tells what became of the connection
of its key; and all other connections are the same, in the same places. -/
theorem performAll_from_empty (calls : List Call) :
    let wiring := performAll .empty calls
    wiring.keys.Nodup ∧
    (∀ name, ∀ connection ∈ wiring.byName.bucket name, connection.consumer.slot.name = name) ∧
    (∀ more, Growth wiring (performAll .empty (calls ++ more))) ∧
    ∀ call : Call,
      let next := (call.perform wiring).1
      let report := (call.perform wiring).2
      (call.perform wiring = wiring.left (if call.replaces then wiring.reconnect call.connection
        else wiring.connect call.connection)) ∧
      (∀ key existing entry, wiring.get? key = some existing →
        existing.producer? = some (.dictionary entry) → next.get? key ≠ some existing →
          call = .reconnect call.connection ∧ call.key = key ∧
            next.get? key = some call.connection ∧ ∃ attempted,
              call.connection.producer? = some attempted ∧ attempted ≠ .dictionary entry) ∧
      ((∃ failure, report = .error failure) ↔
        ∃ current attempted, wiring.producerAt? call.key = some current ∧
          call.connection.producer? = some attempted ∧ attempted ≠ current ∧
            (call.replaces = true → current.isDictionary = false)) ∧
      ((∃ failure, report = .error failure) → next = wiring) ∧
      Effect wiring next call report ∧
      (∀ key, key ≠ call.key → next.get? key = wiring.get? key) ∧
      next.connections.filter (·.consumer.key != call.key) =
        wiring.connections.filter (·.consumer.key != call.key) := by
  intro wiring
  have filed : wiring.Filed := filed_performAll Wiring.filed_empty calls
  refine ⟨filed.distinct, filed.named, fun more => ?_, fun call => ?_⟩
  · rw [performAll, List.foldl_append]
    exact growth_performAll wiring more
  · refine ⟨perform_eq wiring call, fun key existing entry found had changed => ?_,
      fails_iff wiring call, ?_, effect wiring call,
      fun key other => get?_perform wiring call other, connections_perform wiring call⟩
    · exact (exchanged_of_perform found had changed).2
    · rintro ⟨failure, failed⟩
      have effect := effect wiring call
      rw [failed] at effect
      cases effect with
      | refused existing current attempted found had given differs firm same => exact same

end Call

end ApiWiring
