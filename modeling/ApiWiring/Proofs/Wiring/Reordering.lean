import ApiWiring.Proofs.Wiring.Filing

/-!
# Connections in any order

Connections are put into a wiring one by one, up to the first that is refused. What the wiring then
knows is read off what it knew and the connections: it has the consumers of all of them, and each
consumer has the producer that it had or that some connection gives it. So connections put into the
empty wiring are refused exactly when two of them give one consumer different producers, and neither
this nor what a consumer gets depends on the order in which they are put in.
-/
namespace ApiWiring

namespace Connection

/-- Whether a connection gives a producer to the consumer of a key. -/
def Gives (connection : Connection) (key : ConsumerKey) (producer : Producer) : Prop :=
  connection.consumer.key = key ∧ connection.producer? = some producer

/-- Whether two connections give one consumer different producers. -/
def Conflicts (left right : Connection) : Prop :=
  ∃ key current attempted, left.Gives key current ∧ right.Gives key attempted ∧
    current ≠ attempted

end Connection

namespace Wiring

variable {wiring next final : Wiring} {connection : Connection} {connections : List Connection}
  {outcome : Outcome} {key : ConsumerKey} {producer : Producer}

/-- A wiring with connections put in one by one, up to the first that is refused. -/
def connectEach (wiring : Wiring) (connections : List Connection) : Except Failure Wiring :=
  connections.foldlM (fun wiring connection => (wiring.connect connection).map (·.1)) wiring

/-- The wiring of connections: they are put into the empty one. -/
def ofConnections (connections : List Connection) : Except Failure Wiring :=
  empty.connectEach connections

/-! ## What a wiring of connections knows -/

/-- After connecting, a consumer has the producer that it had or that the connection gives it. -/
theorem producerAt?_of_connect_iff (done : wiring.connect connection = .ok (next, outcome)) :
    next.producerAt? key = some producer ↔
      wiring.producerAt? key = some producer ∨ connection.Gives key producer := by
  have settled := (change_of_connect done).producerAt? key
  constructor
  · intro there
    rw [settled] at there
    split at there
    · rename_i own
      rcases Option.or_eq_some_iff.mp there with given | ⟨_, before⟩
      · exact .inr ⟨own.symm, given⟩
      · exact .inl before
    · exact .inl there
  · rintro (before | ⟨own, given⟩)
    · exact producerAt?_of_connect done before
    · rw [settled, if_pos own.symm, given, Option.some_or]

/-- After connections were put in, a consumer has the producer that it had or that some connection
gives it. -/
theorem producerAt?_of_connectEach_iff (done : wiring.connectEach connections = .ok final) :
    final.producerAt? key = some producer ↔
      wiring.producerAt? key = some producer ∨
        ∃ connection ∈ connections, connection.Gives key producer := by
  refine Outcome.foldlM_iff (fun state : Wiring => state.producerAt? key = some producer)
    (·.Gives key producer) ?_ done
  intro state connection next stepped
  obtain ⟨⟨made, outcome⟩, connected, rfl⟩ := Outcome.map_eq_ok_iff.mp stepped
  exact producerAt?_of_connect_iff connected

/-- After connections were put in, the wiring knows their consumers and those that it knew. -/
theorem knows_of_connectEach_iff (done : wiring.connectEach connections = .ok final) :
    final.Knows key ↔
      wiring.Knows key ∨ ∃ connection ∈ connections, connection.consumer.key = key := by
  refine Outcome.foldlM_iff (fun state : Wiring => state.Knows key) (·.consumer.key = key) ?_ done
  intro state connection next stepped
  obtain ⟨⟨made, outcome⟩, connected, rfl⟩ := Outcome.map_eq_ok_iff.mp stepped
  exact (change_of_connect connected).knows_iff

/-- No consumer has a producer in the empty wiring. -/
theorem producerAt?_empty (key : ConsumerKey) : empty.producerAt? key = none := by
  have unknown : empty.get? key = none := Option.not_isSome_iff_eq_none.mp not_knows_empty
  rw [producerAt?, unknown]
  rfl

/-- In the wiring of connections a consumer has the producer that some connection gives it. -/
theorem producerAt?_ofConnections_iff (done : ofConnections connections = .ok wiring) :
    wiring.producerAt? key = some producer ↔
      ∃ connection ∈ connections, connection.Gives key producer := by
  have nothing : empty.producerAt? key ≠ some producer := by
    rw [producerAt?_empty]
    exact nofun
  rw [producerAt?_of_connectEach_iff done, or_iff_right nothing]

/-- The wiring of connections knows their consumers. -/
theorem knows_ofConnections_iff (done : ofConnections connections = .ok wiring) :
    wiring.Knows key ↔ ∃ connection ∈ connections, connection.consumer.key = key := by
  rw [knows_of_connectEach_iff done, or_iff_right not_knows_empty]

/-! ## When connections are refused -/

/-- Whether each producer in a wiring was there in another one or is given by a connection. -/
def DrawnFrom (final wiring : Wiring) (connections : List Connection) : Prop :=
  ∀ key producer, final.producerAt? key = some producer →
    wiring.producerAt? key = some producer ∨
      ∃ connection ∈ connections, connection.Gives key producer

/-- Connections are put in, one after the other, when no two of them conflict and none gives a
consumer another producer than it has. -/
theorem connectEach_succeeds
    (fitting : ∀ connection ∈ connections, ∀ key current attempted,
      wiring.producerAt? key = some current → connection.Gives key attempted → attempted = current)
    (agree : ∀ left ∈ connections, ∀ right ∈ connections, ¬left.Conflicts right) :
    ∃ final, wiring.connectEach connections = .ok final := by
  -- A consumer that is met again has the producer it had first or one that a connection gave it,
  -- and the connection at hand agrees with both.
  have each : ∀ state, ∀ connection ∈ connections, DrawnFrom state wiring connections →
      ∃ next, (state.connect connection).map (·.1) = .ok next ∧
        DrawnFrom next wiring connections := by
    intro state connection listed drawn
    have same : ∀ current attempted, state.producerAt? connection.consumer.key = some current →
        connection.producer? = some attempted → attempted = current := by
      intro current attempted there given
      rcases drawn _ current there with first | ⟨other, among, gives⟩
      · exact fitting connection listed _ current attempted first ⟨rfl, given⟩
      · by_contra differs
        apply agree other among connection listed
        exact ⟨_, current, attempted, gives, ⟨rfl, given⟩, Ne.symm differs⟩
    obtain ⟨⟨next, outcome⟩, connected⟩ := connect_succeeds same
    refine ⟨next, by rw [connected]; rfl, fun key current there => ?_⟩
    rcases (producerAt?_of_connect_iff connected).mp there with before | gives
    · exact drawn key current before
    · exact .inr ⟨connection, listed, gives⟩
  have start : DrawnFrom wiring wiring connections := fun key current there => .inl there
  obtain ⟨final, done, _⟩ :=
    Outcome.foldlM_succeeds (DrawnFrom · wiring connections) each start
  exact ⟨final, done⟩

/-- Connections of which no two conflict are put in, one after the other. -/
theorem ofConnections_succeeds
    (agree : ∀ left ∈ connections, ∀ right ∈ connections, ¬left.Conflicts right) :
    ∃ wiring, ofConnections connections = .ok wiring := by
  refine connectEach_succeeds ?_ agree
  intro connection _ key current attempted there
  rw [producerAt?_empty] at there
  cases there

/-- Connections of which two conflict are refused. -/
theorem connectEach_ne_ok {left right : Connection} (first : left ∈ connections)
    (second : right ∈ connections) (conflict : left.Conflicts right) :
    wiring.connectEach connections ≠ .ok final := by
  intro done
  obtain ⟨key, current, attempted, gives, givesToo, differ⟩ := conflict
  have there := (producerAt?_of_connectEach_iff done).mpr (.inr ⟨left, first, gives⟩)
  have thereToo := (producerAt?_of_connectEach_iff done).mpr (.inr ⟨right, second, givesToo⟩)
  exact differ (Option.some.inj (there.symm.trans thereToo))

/-- Connections of consumers that have no producer yet are refused exactly when two of them give one
consumer different producers. -/
theorem connectEach_fails_iff
    (unsupplied : ∀ connection ∈ connections, wiring.producerAt? connection.consumer.key = none) :
    (∃ failure, wiring.connectEach connections = .error failure) ↔
      ∃ left ∈ connections, ∃ right ∈ connections, left.Conflicts right := by
  constructor
  · rintro ⟨failure, failed⟩
    by_contra! agree
    have fitting : ∀ connection ∈ connections, ∀ key current attempted,
        wiring.producerAt? key = some current → connection.Gives key attempted →
          attempted = current := by
      rintro connection listed _ current attempted there ⟨rfl, _⟩
      rw [unsupplied connection listed] at there
      cases there
    obtain ⟨final, done⟩ := connectEach_succeeds fitting agree
    rw [failed] at done
    cases done
  · rintro ⟨left, first, right, second, conflict⟩
    cases result : wiring.connectEach connections with
    | error failure => exact ⟨failure, rfl⟩
    | ok final => exact absurd result (connectEach_ne_ok first second conflict)

/-- Connections are refused exactly when two of them give one consumer different producers. -/
theorem ofConnections_fails_iff :
    (∃ failure, ofConnections connections = .error failure) ↔
      ∃ left ∈ connections, ∃ right ∈ connections, left.Conflicts right :=
  connectEach_fails_iff fun _ _ => producerAt?_empty _

/-! ## In any order -/

/-- The order in which connections are put in changes nothing: in any other order they are refused
as well, which is when two of them give one consumer different producers, and otherwise the wiring
knows the same consumers and each has the same producer or none. -/
theorem ofConnections_perm {reordered : List Connection} (same : connections.Perm reordered) :
    ((∃ failure, ofConnections connections = .error failure) ↔
        ∃ failure, ofConnections reordered = .error failure) ∧
      ((∃ failure, ofConnections connections = .error failure) ↔
        ∃ left ∈ connections, ∃ right ∈ connections, left.Conflicts right) ∧
      ∀ wiring rewired, ofConnections connections = .ok wiring →
        ofConnections reordered = .ok rewired →
        ∀ key, (rewired.Knows key ↔ wiring.Knows key) ∧
          rewired.producerAt? key = wiring.producerAt? key := by
  have members : ∀ connection, connection ∈ reordered ↔ connection ∈ connections :=
    fun connection => same.mem_iff.symm
  refine ⟨?_, ofConnections_fails_iff, ?_⟩
  · rw [ofConnections_fails_iff, ofConnections_fails_iff]
    simp only [members]
  · intro wiring rewired done redone key
    constructor
    · rw [knows_ofConnections_iff redone, knows_ofConnections_iff done]
      simp only [members]
    · ext producer
      rw [producerAt?_ofConnections_iff redone, producerAt?_ofConnections_iff done]
      simp only [members]

/-- Two query parameters of a request, one of them known before its entry of the dictionary is. -/
def queryConnections : List Connection :=
  let request : RequestId := ⟨"/posts", .get⟩
  let author := Consumer.plain ⟨request, "author", .query ⟨["author"]⟩, none, .string⟩ .query
  let page := Consumer.plain ⟨request, "page", .query ⟨["page"]⟩, none, .int⟩ .query
  [⟨author, none⟩, ⟨page, none⟩, ⟨author, some (.dictionary (.uniqueName "author"))⟩]

/-- The connections of `queryConnections` and the same backwards are put in, and tell the same. -/
theorem queryConnections_perm_reverse :
    ∃ wiring rewired, ofConnections queryConnections = .ok wiring ∧
      ofConnections queryConnections.reverse = .ok rewired ∧
      ∀ key, (rewired.Knows key ↔ wiring.Knows key) ∧
        rewired.producerAt? key = wiring.producerAt? key := by
  have agree : ∀ left ∈ queryConnections, ∀ right ∈ queryConnections, ¬left.Conflicts right := by
    rintro left first right second ⟨key, current, attempted, ⟨_, given⟩, ⟨_, also⟩, differ⟩
    have entry : ∀ connection ∈ queryConnections, ∀ producer,
        connection.producer? = some producer → producer = .dictionary (.uniqueName "author") := by
      decide
    exact differ ((entry left first current given).trans (entry right second attempted also).symm)
  obtain ⟨refused, _, told⟩ := ofConnections_perm queryConnections.reverse_perm.symm
  obtain ⟨wiring, done⟩ := ofConnections_succeeds agree
  cases redone : ofConnections queryConnections.reverse with
  | error failure =>
    obtain ⟨other, failed⟩ := refused.mpr ⟨failure, redone⟩
    rw [done] at failed
    cases failed
  | ok rewired => exact ⟨wiring, rewired, done, rfl, told wiring rewired done redone⟩

end Wiring

end ApiWiring
