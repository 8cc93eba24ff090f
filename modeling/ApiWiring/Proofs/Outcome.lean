import Mathlib.Data.List.Forall2

/-!
# Steps that may fail

Facts about computations in `Except` that every later proof about a pass shares: what a sequence of
two steps says about each of them, what a list of steps says about its members, and that what every
step of a fold keeps, a fold that succeeds keeps.
-/
namespace ApiWiring.Outcome

variable {ε α β : Type}

/-- Two steps succeed when the first succeeds and the second succeeds on its result. -/
theorem bind_eq_ok_iff {first : Except ε α} {second : α → Except ε β} {result : β} :
    (first >>= second) = .ok result ↔
      ∃ middle, first = .ok middle ∧ second middle = .ok result := by
  cases first with
  | error failure => simp [bind, Except.bind]
  | ok middle => simp [bind, Except.bind]

/-- Two steps fail when the first fails, or when it succeeds and the second fails on its result. -/
theorem bind_eq_error_iff {first : Except ε α} {second : α → Except ε β} {failure : ε} :
    (first >>= second) = .error failure ↔
      first = .error failure ∨ ∃ middle, first = .ok middle ∧ second middle = .error failure := by
  cases first with
  | error failure => simp [bind, Except.bind]
  | ok middle => simp [bind, Except.bind]

/-- A step whose result is changed afterwards succeeds when the step does. -/
theorem map_eq_ok_iff {step : Except ε α} {change : α → β} {result : β} :
    step.map change = .ok result ↔ ∃ middle, step = .ok middle ∧ change middle = result := by
  cases step with
  | error failure => simp [Except.map]
  | ok middle => simp [Except.map]

/-- A step whose result is changed afterwards fails when the step does. -/
theorem map_eq_error_iff {step : Except ε α} {change : α → β} {failure : ε} :
    step.map change = .error failure ↔ step = .error failure := by
  cases step with
  | error other => simp [Except.map]
  | ok middle => simp [Except.map]

/-- A step fails when it does not succeed. -/
theorem fails_iff {step : Except ε α} :
    (∃ failure, step = .error failure) ↔ ¬∃ result, step = .ok result := by
  cases step <;> simp

/-- A list of steps succeeds when every member does, with the results in order. -/
theorem mapM_eq_ok_iff {step : α → Except ε β} {members : List α} {results : List β} :
    members.mapM step = .ok results ↔
      List.Forall₂ (fun member result => step member = .ok result) members results := by
  induction members generalizing results with
  | nil => cases results <;> simp [pure, Except.pure]
  | cons member rest ih =>
    rw [List.mapM_cons, bind_eq_ok_iff]
    constructor
    · rintro ⟨result, done, later⟩
      obtain ⟨others, rested, built⟩ := bind_eq_ok_iff.mp later
      cases built
      exact .cons done (ih.mp rested)
    · intro each
      cases each with
      | cons done others =>
        exact ⟨_, done, bind_eq_ok_iff.mpr ⟨_, ih.mpr others, rfl⟩⟩

/-- Lists related member by member have related members at an index, or both have ended there. -/
theorem getElem?_of_forall₂ {related : α → β → Prop} {members : List α} {results : List β}
    (each : List.Forall₂ related members results) (index : Nat) :
    (members[index]? = none ∧ results[index]? = none) ∨
      ∃ member result, members[index]? = some member ∧ results[index]? = some result ∧
        related member result := by
  induction each generalizing index with
  | nil => exact .inl ⟨rfl, rfl⟩
  | cons head _ ih =>
    cases index with
    | zero => exact .inr ⟨_, _, rfl, rfl, head⟩
    | succ index => simpa using ih index

/-- Of lists related member by member, every member of the first is related to one of the second. -/
theorem exists_result_of_forall₂ {related : α → β → Prop} {members : List α} {results : List β}
    (each : List.Forall₂ related members results) {member : α} (listed : member ∈ members) :
    ∃ result ∈ results, related member result := by
  induction each with
  | nil => exact absurd listed List.not_mem_nil
  | cons head _ ih =>
    rcases List.mem_cons.mp listed with rfl | later
    · exact ⟨_, .head _, head⟩
    · obtain ⟨result, found, holds⟩ := ih later
      exact ⟨result, .tail _ found, holds⟩

/-- Of lists related member by member, every member of the second is related to one of the first. -/
theorem exists_member_of_forall₂ {related : α → β → Prop} {members : List α} {results : List β}
    (each : List.Forall₂ related members results) {result : β} (listed : result ∈ results) :
    ∃ member ∈ members, related member result :=
  exists_result_of_forall₂ each.flip listed

/-- Of lists related member by member, what related members have in common is read off both in one
order. -/
theorem map_eq_of_forall₂ {γ : Type} {related : α → β → Prop} {members : List α} {results : List β}
    {ofMember : α → γ} {ofResult : β → γ} (each : List.Forall₂ related members results)
    (agrees : ∀ member result, related member result → ofMember member = ofResult result) :
    members.map ofMember = results.map ofResult := by
  induction each with
  | nil => rfl
  | cons head _ ih => rw [List.map_cons, List.map_cons, agrees _ _ head, ih]

/-- Lists that are related to one list member by member are related member by member. -/
theorem forall₂_of_common {γ : Type} {first : α → β → Prop} {second : α → γ → Prop}
    {both : β → γ → Prop} {members : List α} {lefts : List β} {rights : List γ}
    (left : List.Forall₂ first members lefts) (right : List.Forall₂ second members rights)
    (joins : ∀ member ∈ members, ∀ one other, first member one → second member other →
      both one other) : List.Forall₂ both lefts rights := by
  induction left generalizing rights with
  | nil =>
    cases right
    exact .nil
  | cons head _ ih =>
    cases right with
    | cons other rest =>
      exact .cons (joins _ (.head _) _ _ head other)
        (ih rest fun member listed => joins member (.tail _ listed))

/-- If each step of a list that succeeds has another step that succeeds too, so do the other steps,
with related results. -/
theorem mapM_follows {γ : Type} {related : β → γ → Prop} {step : α → Except ε β}
    {other : α → Except ε γ} {members : List α} {results : List β}
    (done : members.mapM step = .ok results)
    (each : ∀ member ∈ members, ∀ result, step member = .ok result →
      ∃ another, other member = .ok another ∧ related result another) :
    ∃ others, members.mapM other = .ok others ∧ List.Forall₂ related results others := by
  rw [mapM_eq_ok_iff] at done
  simp only [mapM_eq_ok_iff]
  induction done with
  | nil => exact ⟨[], .nil, .nil⟩
  | cons head _ ih =>
    obtain ⟨another, made, alike⟩ := each _ (.head _) _ head
    obtain ⟨others, listed, rest⟩ := ih fun member later => each member (.tail _ later)
    exact ⟨another :: others, .cons made listed, .cons alike rest⟩

/-- Steps that are the same for every member of a list have the same results. -/
theorem mapM_congr {step other : α → Except ε β} {members : List α}
    (each : ∀ member ∈ members, other member = step member) :
    members.mapM other = members.mapM step := by
  induction members with
  | nil => rfl
  | cons member rest ih =>
    obtain ⟨here, later⟩ := List.forall_mem_cons.mp each
    rw [List.mapM_cons, List.mapM_cons, here, ih later]

/-- A list of steps fails when one of its members does. -/
theorem mapM_fails_iff {step : α → Except ε β} {members : List α} :
    (∃ failure, members.mapM step = .error failure) ↔
      ∃ member ∈ members, ∃ failure, step member = .error failure := by
  induction members with
  | nil => simp [pure, Except.pure]
  | cons member rest ih =>
    simp only [List.mapM_cons, bind_eq_error_iff, List.exists_mem_cons_iff]
    constructor
    · rintro ⟨failure, first | ⟨result, done, later⟩⟩
      · exact .inl ⟨failure, first⟩
      · rcases later with rested | ⟨others, rested, built⟩
        · exact .inr (ih.mp ⟨failure, rested⟩)
        · cases built
    · rintro (⟨failure, first⟩ | others)
      · exact ⟨failure, .inl first⟩
      · obtain ⟨failure, rested⟩ := ih.mpr others
        cases done : step member with
        | error other => exact ⟨other, .inl rfl⟩
        | ok result => exact ⟨failure, .inr ⟨result, rfl, .inl rested⟩⟩

/-- The failure of a list of steps is that of one of its members. -/
theorem exists_of_mapM_eq_error {step : α → Except ε β} {members : List α} {failure : ε}
    (failed : members.mapM step = .error failure) :
    ∃ member ∈ members, step member = .error failure := by
  induction members with
  | nil => cases failed
  | cons member rest ih =>
    rw [List.mapM_cons, bind_eq_error_iff] at failed
    rcases failed with first | ⟨result, done, later⟩
    · exact ⟨member, .head _, first⟩
    · rcases bind_eq_error_iff.mp later with rested | ⟨others, rested, built⟩
      · obtain ⟨other, listed, stopped⟩ := ih rested
        exact ⟨other, .tail _ listed, stopped⟩
      · cases built

/-- A list of steps made of two succeeds when both do, with the results in order. -/
theorem mapM_append_eq_ok_iff {step : α → Except ε β} {front back : List α} {results : List β} :
    (front ++ back).mapM step = .ok results ↔ ∃ before after, front.mapM step = .ok before ∧
      back.mapM step = .ok after ∧ results = before ++ after := by
  rw [List.mapM_append, bind_eq_ok_iff]
  constructor
  · rintro ⟨before, first, later⟩
    obtain ⟨after, second, built⟩ := bind_eq_ok_iff.mp later
    cases built
    exact ⟨before, after, first, second, rfl⟩
  · rintro ⟨before, after, first, second, rfl⟩
    exact ⟨before, first, bind_eq_ok_iff.mpr ⟨after, second, rfl⟩⟩

/-- What every step of a fold keeps, a fold that succeeds keeps. -/
theorem foldlM_keeps (keeps : β → Prop) {step : β → α → Except ε β} {members : List α}
    (each : ∀ state member next, member ∈ members → keeps state →
      step state member = .ok next → keeps next)
    {start final : β} (holds : keeps start) (run : members.foldlM step start = .ok final) :
    keeps final := by
  induction members generalizing start with
  | nil =>
    cases run
    exact holds
  | cons member rest ih =>
    rw [List.foldlM_cons] at run
    obtain ⟨next, stepped, rested⟩ := bind_eq_ok_iff.mp run
    refine ih (fun state other after later => each state other after (.tail _ later)) ?_ rested
    exact each start member next (.head _) holds stepped

/-- If every step of a fold succeeds and keeps something, the fold succeeds and keeps it. -/
theorem foldlM_succeeds (keeps : β → Prop) {step : β → α → Except ε β} {members : List α}
    (each : ∀ state member, member ∈ members → keeps state →
      ∃ next, step state member = .ok next ∧ keeps next)
    {start : β} (holds : keeps start) :
    ∃ final, members.foldlM step start = .ok final ∧ keeps final := by
  induction members generalizing start with
  | nil => exact ⟨start, rfl, holds⟩
  | cons member rest ih =>
    obtain ⟨next, stepped, kept⟩ := each start member (.head _) holds
    obtain ⟨final, rested, last⟩ :=
      ih (fun state other later => each state other (.tail _ later)) kept
    refine ⟨final, ?_, last⟩
    rw [List.foldlM_cons]
    exact bind_eq_ok_iff.mpr ⟨next, stepped, rested⟩

/-- What every step of a fold keeps and only the steps of some members bring about holds after the
fold if it held before or there is such a member. -/
theorem foldlM_iff (holds : β → Prop) (brings : α → Prop) {step : β → α → Except ε β}
    (each : ∀ state member next, step state member = .ok next →
      (holds next ↔ holds state ∨ brings member))
    {members : List α} {start final : β} (run : members.foldlM step start = .ok final) :
    holds final ↔ holds start ∨ ∃ member ∈ members, brings member := by
  induction members generalizing start with
  | nil =>
    cases run
    simp
  | cons member rest ih =>
    rw [List.foldlM_cons] at run
    obtain ⟨next, stepped, rested⟩ := bind_eq_ok_iff.mp run
    rw [ih rested, each start member next stepped, List.exists_mem_cons_iff, or_assoc]

/-- What the step of one member settles and every step keeps, a fold that succeeds has settled. -/
theorem foldlM_settles (settled : β → Prop) {step : β → α → Except ε β} {members : List α}
    {member : α} (listed : member ∈ members)
    (here : ∀ state next, step state member = .ok next → settled next)
    (each : ∀ state other next, other ∈ members → settled state →
      step state other = .ok next → settled next)
    {start final : β} (run : members.foldlM step start = .ok final) : settled final := by
  obtain ⟨front, back, split⟩ := List.append_of_mem listed
  rw [split, List.foldlM_append] at run
  obtain ⟨middle, _, later⟩ := bind_eq_ok_iff.mp run
  rw [List.foldlM_cons] at later
  obtain ⟨next, stepped, rested⟩ := bind_eq_ok_iff.mp later
  refine foldlM_keeps settled (fun state other after inBack => ?_) (here middle next stepped) rested
  have inMembers : other ∈ members := by
    rw [split]
    exact List.mem_append_right _ (.tail _ inBack)
  exact each state other after inMembers

/-- The failure of a fold is that of the step of one of its members. -/
theorem exists_of_foldlM_eq_error {step : β → α → Except ε β} {members : List α} {start : β}
    {failure : ε} (failed : members.foldlM step start = .error failure) :
    ∃ state, ∃ member ∈ members, step state member = .error failure := by
  induction members generalizing start with
  | nil => cases failed
  | cons member rest ih =>
    rw [List.foldlM_cons, bind_eq_error_iff] at failed
    rcases failed with first | ⟨next, _, later⟩
    · exact ⟨start, member, .head _, first⟩
    · obtain ⟨state, other, listed, stopped⟩ := ih later
      exact ⟨state, other, .tail _ listed, stopped⟩

variable {γ δ : Type}

/-- If each step of one fold that succeeds has a step of another fold that follows it, then the
other fold follows the one. -/
theorem foldlM_follows (follows : β → γ → Prop) {step : β → α → Except ε β}
    {other : γ → δ → Except ε γ} {members : List α} {others : List δ}
    (each : List.Forall₂ (fun member another => ∀ state mirror next, follows state mirror →
      step state member = .ok next →
        ∃ after, other mirror another = .ok after ∧ follows next after) members others)
    {start final : β} {mirror : γ} (holds : follows start mirror)
    (run : members.foldlM step start = .ok final) :
    ∃ last, others.foldlM other mirror = .ok last ∧ follows final last := by
  induction each generalizing start mirror with
  | nil =>
    cases run
    exact ⟨mirror, rfl, holds⟩
  | cons head _ ih =>
    rw [List.foldlM_cons] at run
    obtain ⟨next, stepped, rested⟩ := bind_eq_ok_iff.mp run
    obtain ⟨after, followed, still⟩ := head start mirror next holds stepped
    obtain ⟨last, later, ends⟩ := ih still rested
    refine ⟨last, ?_, ends⟩
    rw [List.foldlM_cons]
    exact bind_eq_ok_iff.mpr ⟨after, followed, later⟩

/-- If a fold of the members that pass a test follows the steps of these members and ignores those
of the others, it follows the fold of all. -/
theorem foldlM_filter_follows (follows : β → γ → Prop) {step : β → α → Except ε β}
    {other : γ → α → Except ε γ} (keep : α → Bool) {members : List α}
    (kept : ∀ member ∈ members, keep member = true → ∀ state mirror next, follows state mirror →
      step state member = .ok next →
        ∃ after, other mirror member = .ok after ∧ follows next after)
    (dropped : ∀ member ∈ members, keep member = false → ∀ state mirror next,
      follows state mirror → step state member = .ok next → follows next mirror)
    {start final : β} {mirror : γ} (holds : follows start mirror)
    (run : members.foldlM step start = .ok final) :
    ∃ last, (members.filter keep).foldlM other mirror = .ok last ∧ follows final last := by
  induction members generalizing start mirror with
  | nil =>
    cases run
    exact ⟨mirror, rfl, holds⟩
  | cons member rest ih =>
    rw [List.foldlM_cons] at run
    obtain ⟨next, stepped, rested⟩ := bind_eq_ok_iff.mp run
    have later : ∀ {after}, follows next after →
        ∃ last, (rest.filter keep).foldlM other after = .ok last ∧ follows final last :=
      fun still => ih (fun other listed => kept other (.tail _ listed))
        (fun other listed => dropped other (.tail _ listed)) still rested
    cases passes : keep member with
    | true =>
      obtain ⟨after, followed, still⟩ :=
        kept member (.head _) passes start mirror next holds stepped
      obtain ⟨last, done, ends⟩ := later still
      refine ⟨last, ?_, ends⟩
      rw [List.filter_cons_of_pos passes, List.foldlM_cons]
      exact bind_eq_ok_iff.mpr ⟨after, followed, done⟩
    | false =>
      have still := dropped member (.head _) passes start mirror next holds stepped
      rw [List.filter_cons_of_neg (by rw [passes]; exact Bool.false_ne_true)]
      exact later still

/-- A result that is there is the result of a step that succeeds. -/
theorem ok_of_toOption {step : Except ε α} {result : α} (present : step.toOption = some result) :
    step = .ok result := by
  cases step with
  | error failure => cases present
  | ok other =>
    cases present
    rfl

end ApiWiring.Outcome
