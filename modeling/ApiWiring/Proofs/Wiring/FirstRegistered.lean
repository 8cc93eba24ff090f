import ApiWiring.Proofs.Keyed.Buckets
import ApiWiring.Wiring.Inference

/-!
# The first producer registered for a value

The same value of a response can be registered several times, with different types: a response may
declare a property twice, and two requests may have one identity. All of these slots are alike but
for their type, and no rule of inference looks at the type of a producer. So every rule that takes
the first of some producers, or the first of those nearest to the root, takes the slot that was
registered first for its value, and two rules that choose the same value choose the same slot.
-/
namespace ApiWiring

namespace Slot

/-- The slot with its type forgotten. -/
def untyped (slot : Slot) : Slot := { slot with type := .string }

/-- Whether a slot is the first of a list that differs from it at most in its type. -/
def IsFirst (slots : List Slot) (slot : Slot) : Prop :=
  slots.find? (fun other => other.untyped == slot.untyped) = some slot

/-- Whether a function of slots does not look at their type. -/
def TypeBlind {α : Type} (f : Slot → α) : Prop := ∀ slot, f slot.untyped = f slot

/-- A function that does not look at types agrees on slots that differ at most in their type. -/
theorem TypeBlind.congr {α : Type} {f : Slot → α} (blind : TypeBlind f) {left right : Slot}
    (same : left.untyped = right.untyped) : f left = f right := by
  rw [← blind left, same, blind right]

/-- A slot that is the first of its value is in the list. -/
theorem IsFirst.mem {slots : List Slot} {slot : Slot} (first : IsFirst slots slot) :
    slot ∈ slots :=
  List.mem_of_find?_eq_some first

/-- There is one first slot of a value. -/
theorem IsFirst.unique {slots : List Slot} {left right : Slot} (first : IsFirst slots left)
    (second : IsFirst slots right) (same : left.untyped = right.untyped) : left = right := by
  unfold IsFirst at first second
  rw [same] at first
  exact Option.some.inj (first.symm.trans second)

/-- The first slot of its value in the part of a list that a test leaves is the first of its value
in the list, if the test does not look at types. -/
theorem IsFirst.of_filter {slots : List Slot} {slot : Slot} {test : Slot → Bool}
    (blind : TypeBlind test) (first : IsFirst (slots.filter test) slot) : IsFirst slots slot := by
  have passed : test slot = true := (List.mem_filter.mp first.mem).2
  have tests : (fun other => decide (test other = true ∧ (other.untyped == slot.untyped) = true)) =
      fun other => other.untyped == slot.untyped := by
    funext other
    by_cases same : other.untyped = slot.untyped
    · simp [same, blind.congr same, passed]
    · simp [same]
  unfold IsFirst at first ⊢
  rwa [List.find?_filter, tests] at first

/-- The first slot of its value in a sequence of lists is so in one of them. -/
theorem IsFirst.of_flatMap {α : Type} {members : List α} {lists : α → List Slot} {slot : Slot}
    (first : IsFirst (members.flatMap lists) slot) :
    ∃ member ∈ members, IsFirst (lists member) slot := by
  unfold IsFirst at first
  rw [List.find?_flatMap] at first
  exact List.exists_of_findSome?_eq_some first

/-- The head of a list is the first of its value. -/
theorem isFirst_of_head? {slots : List Slot} {slot : Slot} (head : slots.head? = some slot) :
    IsFirst slots slot := by
  cases slots with
  | nil => cases head
  | cons first rest =>
    cases head
    simp [IsFirst]

/-- The first slot that passes a test is the first of its value, if the test does not look at
types. -/
theorem isFirst_of_find? {slots : List Slot} {slot : Slot} {test : Slot → Bool}
    (blind : TypeBlind test) (found : slots.find? test = some slot) : IsFirst slots slot := by
  rw [← List.head?_filter] at found
  exact (isFirst_of_head? found).of_filter blind

/-- The first of the slots with the least measure is the first of its value, if the measure does not
look at types. -/
theorem isFirst_of_minOn? {slots : List Slot} {slot : Slot} {measure : Slot → Nat}
    (blind : TypeBlind measure) (least : slots.minOn? measure = some slot) :
    IsFirst slots slot := by
  induction slots generalizing slot with
  | nil => cases least
  | cons head rest ih =>
    rw [List.minOn?_cons, Option.some.injEq] at least
    cases later : rest.minOn? measure with
    | none =>
      rw [later, Option.elim_none] at least
      subst least
      exact isFirst_of_head? rfl
    | some other =>
      rw [later, Option.elim_some] at least
      by_cases before : measure head ≤ measure other
      · rw [minOn_eq_left before] at least
        subst least
        exact isFirst_of_head? rfl
      · rw [minOn_eq_right before] at least
        subst least
        have apart : (head.untyped == other.untyped) = false := by
          rw [beq_eq_false_iff_ne]
          intro same
          exact before (Nat.le_of_eq (blind.congr same))
        have first := ih later
        unfold IsFirst at first ⊢
        rw [List.find?_cons, apart]
        exact first

end Slot

namespace Catalog

/-- The response slots of a catalog are registered in turn. -/
theorem responses_ofLists (responses siblings : List Slot) :
    (ofLists responses siblings).responses =
      responses.foldl (fun entries slot => entries.push slot.name slot) .empty := by
  have kept : ∀ catalog : Catalog,
      (siblings.foldl addSibling catalog).responses = catalog.responses := by
    intro catalog
    induction siblings generalizing catalog with
    | nil => rfl
    | cons slot rest ih => rw [List.foldl_cons, ih, addSibling]
  rw [ofLists, kept]
  exact (List.foldl_hom Catalog.responses fun _ _ => rfl).symm

/-- The body slots of a catalog are registered in turn. -/
theorem siblings_ofLists (responses siblings : List Slot) :
    (ofLists responses siblings).siblings =
      siblings.foldl (fun entries slot => entries.push slot.name slot) .empty := by
  have kept : ∀ catalog : Catalog,
      (responses.foldl addResponse catalog).siblings = catalog.siblings := by
    intro catalog
    induction responses generalizing catalog with
    | nil => rfl
    | cons slot rest ih => rw [List.foldl_cons, ih, addResponse]
  have added : (siblings.foldl addSibling (responses.foldl addResponse empty)).siblings =
      siblings.foldl (fun entries slot => entries.push slot.name slot)
        (responses.foldl addResponse empty).siblings :=
    (List.foldl_hom Catalog.siblings fun _ _ => rfl).symm
  rw [ofLists, added, kept]
  rfl

/-- The slots of a name in a catalog are the slots of that name in the order of registration. -/
theorem named_ofLists (responses siblings : List Slot) (name : String) :
    (ofLists responses siblings).named name = responses.filter (·.name == name) := by
  rw [named, responses_ofLists, SortedEntries.bucket_foldl_push]
  rfl

/-- The body slots of a name and a request in a catalog are those registered, in their order. -/
theorem siblingsOf_ofLists (responses siblings : List Slot) (name : String) (request : RequestId) :
    (ofLists responses siblings).siblingsOf name request =
      (siblings.filter (·.name == name)).filter (·.request == request) := by
  rw [siblingsOf, siblings_ofLists, SortedEntries.bucket_foldl_push]
  rfl

end Catalog

end ApiWiring
