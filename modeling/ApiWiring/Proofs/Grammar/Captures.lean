import ApiWiring.Grammar.Basic
import ApiWiring.Proofs.Representatives

/-!
# What a request keeps

The values kept from a response are those of the slots that supply some consumer, each path once and
the paths in strictly ascending order.
-/
namespace ApiWiring

namespace AccessPath

/-- A path is not after another one when the other one is not less. -/
theorem notAfter_iff {left right : AccessPath} :
    left.notAfter right = true ↔ ¬right.parts < left.parts := by
  rw [notAfter, Bool.not_eq_true', decide_eq_false_iff_not]

/-- Of two different paths the one that is not after the other is before it. -/
theorem lt_of_notAfter {left right : AccessPath} (ordered : left.notAfter right = true)
    (different : left ≠ right) : left.parts < right.parts := by
  rcases List.le_iff_lt_or_eq.mp (List.not_lt.mp (notAfter_iff.mp ordered)) with less | same
  · exact less
  · have equal : left = right := by
      cases left
      cases right
      exact congrArg AccessPath.mk same
    exact absurd equal different

end AccessPath

namespace Grammar

variable {wiring : Wiring} {request : RequestId} {slot : Slot}

/-- What is kept of a slot. -/
def captureOf (slot : Slot) : Capture := ⟨slot.accessPath, slot.variableName, slot.type⟩

/-- A slot supplies a connection when it is its response producer. -/
theorem responseSlot?_eq_some_iff {connection : Connection} :
    responseSlot? connection = some slot ↔ connection.producer? = some (.response slot) := by
  unfold responseSlot?
  split
  · rename_i other given
    rw [given]
    constructor
    · intro same
      cases same
      rfl
    · intro same
      cases same
      rfl
  · rename_i none
    constructor
    · intro impossible
      cases impossible
    · intro given
      exact absurd given (none slot)

/-- A slot whose response supplies a consumer is among those gathered. -/
theorem mem_gathered_iff :
    slot ∈ (wiring.connections.filterMap responseSlot?).filter (·.request == request) ↔
      (∃ connection ∈ wiring.connections, connection.producer? = some (.response slot)) ∧
        slot.request = request := by
  rw [List.mem_filter, List.mem_filterMap, beq_iff_eq]
  simp only [responseSlot?_eq_some_iff]

/-- A supplier of a request supplies a consumer from the response of the request. -/
theorem supplies_of_mem_suppliers (member : slot ∈ suppliers wiring request) :
    (∃ connection ∈ wiring.connections, connection.producer? = some (.response slot)) ∧
      slot.request = request :=
  mem_gathered_iff.mp (Representatives.mem_of_mem_eraseDupsBy member)

/-- For every slot that supplies a consumer there is a supplier with its path. -/
theorem exists_supplier {connection : Connection} (member : connection ∈ wiring.connections)
    (supplied : connection.producer? = some (.response slot)) (owner : slot.request = request) :
    ∃ supplier ∈ suppliers wiring request, supplier.accessPath = slot.accessPath := by
  have gathered := mem_gathered_iff.mpr ⟨⟨connection, member, supplied⟩, owner⟩
  have represented : ∃ supplier ∈ suppliers wiring request,
      slot = supplier ∨ (slot.accessPath == supplier.accessPath) = true :=
    Representatives.exists_mem_eraseDupsBy gathered
  obtain ⟨supplier, kept, rfl | same⟩ := represented
  · exact ⟨slot, kept, rfl⟩
  · rw [beq_iff_eq] at same
    exact ⟨supplier, kept, same.symm⟩

/-- A value is kept when it is that of a supplier. -/
theorem mem_captures_iff {capture : Capture} :
    capture ∈ captures wiring request ↔
      ∃ supplier ∈ suppliers wiring request, captureOf supplier = capture := by
  rw [captures, List.mem_mergeSort, List.mem_map]
  rfl

/-- The values kept are in strictly ascending order of their paths. -/
theorem ascending_captures (wiring : Wiring) (request : RequestId) :
    (captures wiring request).Pairwise fun left right => left.path.parts < right.path.parts := by
  have sorted : (captures wiring request).Pairwise fun left right =>
      left.path.notAfter right.path = true := by
    apply List.pairwise_mergeSort
    · intro first second third early late
      rw [AccessPath.notAfter_iff] at early late ⊢
      exact List.not_lt.mpr (List.le_trans (List.not_lt.mp early) (List.not_lt.mp late))
    · intro left right
      rw [Bool.or_eq_true, AccessPath.notAfter_iff, AccessPath.notAfter_iff]
      exact (List.le_total _ _).imp List.not_lt.mpr List.not_lt.mpr
  have distinct : (captures wiring request).Pairwise fun left right => left.path ≠ right.path := by
    have apart : ((suppliers wiring request).map captureOf).Pairwise
        fun left right => left.path ≠ right.path := by
      rw [List.pairwise_map]
      refine (Representatives.pairwise_eraseDupsBy _).imp fun {left right} unlike => ?_
      rw [beq_eq_false_iff_ne] at unlike
      exact unlike.symm
    exact (List.mergeSort_perm _ _).symm.pairwise apart fun {left right} unlike => unlike.symm
  refine (sorted.and distinct).imp fun {left right} both => ?_
  exact AccessPath.lt_of_notAfter both.1 both.2

/-- The paths kept are those of the slots that supply some consumer. -/
theorem mem_paths_captures_iff {path : AccessPath} :
    path ∈ (captures wiring request).map (·.path) ↔
      ∃ connection ∈ wiring.connections, ∃ slot, connection.producer? = some (.response slot) ∧
        slot.request = request ∧ slot.accessPath = path := by
  rw [List.mem_map]
  constructor
  · rintro ⟨capture, kept, rfl⟩
    obtain ⟨supplier, member, rfl⟩ := mem_captures_iff.mp kept
    obtain ⟨⟨connection, connected, supplied⟩, owner⟩ := supplies_of_mem_suppliers member
    exact ⟨connection, connected, supplier, supplied, owner, rfl⟩
  · rintro ⟨connection, connected, slot, supplied, owner, rfl⟩
    obtain ⟨supplier, member, same⟩ := exists_supplier connected supplied owner
    exact ⟨captureOf supplier, mem_captures_iff.mpr ⟨supplier, member, rfl⟩, same⟩

end Grammar

end ApiWiring
