/-!
# Representatives

What is left of a list when of members that are alike only the first stays. The members left are
members of the list, no later one is like an earlier one, and every member of the list is left
itself or is like one that is.
-/
namespace ApiWiring.Representatives

variable {α : Type} {alike : α → α → Bool}

/-- What holds of the empty list, and of a list whenever it holds of the later members that are not
like the first, holds of every list. -/
theorem induction (alike : α → α → Bool) {motive : List α → Prop} (nil : motive [])
    (cons : ∀ first rest, motive (rest.filter fun other => alike other first = false) →
      motive (first :: rest)) : ∀ members, motive members
  | [] => nil
  | first :: rest => cons first rest (induction alike nil cons _)
termination_by members => members.length
decreasing_by exact Nat.lt_succ_of_le (List.length_filter_le _ _)

/-- The first member is left. -/
theorem head?_eraseDupsBy (members : List α) :
    (members.eraseDupsBy alike).head? = members.head? := by
  cases members with
  | nil => rfl
  | cons first rest => rw [List.eraseDupsBy_cons, List.head?_cons, List.head?_cons]

/-- A member left is a member. -/
theorem mem_of_mem_eraseDupsBy {members : List α} {member : α}
    (left : member ∈ members.eraseDupsBy alike) : member ∈ members := by
  induction members using induction alike with
  | nil => exact left
  | cons first rest ih =>
    rw [List.eraseDupsBy_cons] at left
    rcases List.mem_cons.mp left with rfl | later
    · exact .head _
    · exact .tail _ (List.mem_filter.mp (ih later)).1

/-- No member left is like an earlier one that is left. -/
theorem pairwise_eraseDupsBy (members : List α) :
    (members.eraseDupsBy alike).Pairwise fun earlier later => alike later earlier = false := by
  induction members using induction alike with
  | nil => exact .nil
  | cons first rest ih =>
    rw [List.eraseDupsBy_cons]
    refine List.pairwise_cons.mpr ⟨fun later left => ?_, ih⟩
    simpa using (List.mem_filter.mp (mem_of_mem_eraseDupsBy left)).2

/-- Every member is left itself or is like one that is. -/
theorem exists_mem_eraseDupsBy {members : List α} {member : α} (listed : member ∈ members) :
    ∃ left ∈ members.eraseDupsBy alike, member = left ∨ alike member left = true := by
  induction members using induction alike with
  | nil => exact absurd listed List.not_mem_nil
  | cons first rest ih =>
    rw [List.eraseDupsBy_cons]
    by_cases represented : member = first ∨ alike member first = true
    · exact ⟨first, .head _, represented⟩
    · rw [not_or, Bool.not_eq_true] at represented
      have inRest : member ∈ rest := (List.mem_cons.mp listed).resolve_left represented.1
      have kept : member ∈ rest.filter fun other => alike other first = false :=
        List.mem_filter.mpr ⟨inRest, by simpa using represented.2⟩
      obtain ⟨left, later, same⟩ := ih kept
      exact ⟨left, .tail _ later, same⟩

/-- Members for which nothing is found can go. -/
theorem findSome?_filter {β : Type} {f : α → Option β} {test : α → Bool}
    (nothing : ∀ member, test member = false → f member = none) (members : List α) :
    (members.filter test).findSome? f = members.findSome? f := by
  induction members with
  | nil => rfl
  | cons first rest ih =>
    cases tested : test first with
    | true => rw [List.filter_cons_of_pos tested, List.findSome?_cons, List.findSome?_cons, ih]
    | false =>
      rw [List.filter_cons_of_neg (by rw [tested]; decide), ih, List.findSome?_cons,
        nothing first tested]

/-! ## Equal members -/

section Equal

variable [BEq α] [LawfulBEq α]

/-- Of equal members only one is left. -/
theorem nodup_eraseDups (members : List α) : members.eraseDups.Nodup := by
  refine (pairwise_eraseDupsBy members).imp fun apart same => ?_
  rw [same, beq_self_eq_true] at apart
  cases apart

/-- What is found first for the members left is what is found first for all members. -/
theorem findSome?_eraseDups {β : Type} (f : α → Option β) (members : List α) :
    members.eraseDups.findSome? f = members.findSome? f := by
  cases members with
  | nil => rfl
  | cons first rest =>
    rw [List.eraseDups_cons, List.findSome?_cons, List.findSome?_cons, findSome?_eraseDups f]
    cases found : f first with
    | some answer => rfl
    | none =>
      refine findSome?_filter (fun member same => ?_) rest
      rw [Bool.not_eq_false', beq_iff_eq] at same
      rw [same, found]
termination_by members.length
decreasing_by exact Nat.lt_succ_of_le (List.length_filter_le _ _)

/-- One member is left when there is one and all members are equal. -/
theorem length_eraseDups_eq_one_iff {members : List α} :
    members.eraseDups.length = 1 ↔ ∃ only, ∀ member, member ∈ members ↔ member = only := by
  have kept : ∀ member, member ∈ members.eraseDups ↔ member ∈ members :=
    fun _ => List.mem_eraseDups
  have distinct := nodup_eraseDups members
  constructor
  · intro one
    obtain ⟨only, left⟩ := List.length_eq_one_iff.mp one
    refine ⟨only, fun member => ?_⟩
    rw [← kept, left, List.mem_singleton]
  · rintro ⟨only, alone⟩
    cases left : members.eraseDups with
    | nil =>
      have there := (kept only).mpr ((alone only).mpr rfl)
      rw [left] at there
      exact absurd there List.not_mem_nil
    | cons first rest =>
      rw [left] at kept distinct
      have same : ∀ member ∈ first :: rest, member = only :=
        fun member listed => (alone member).mp ((kept member).mp listed)
      have fresh := (List.pairwise_cons.mp distinct).1
      cases rest with
      | nil => rfl
      | cons second others =>
        have equal := (same first (.head _)).trans (same second (.tail _ (.head _))).symm
        exact absurd equal (fresh second (.head _))

end Equal

end ApiWiring.Representatives
