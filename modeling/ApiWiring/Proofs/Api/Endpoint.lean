import ApiWiring.Api.RequestId
import ApiWiring.Proofs.Text.Segments
import Mathlib.Data.List.Forall2
import Mathlib.Data.List.TakeWhile
import Mathlib.Logic.Relation

/-!
# Arithmetic of endpoints

The cuts of an endpoint, its form without parameter names and the test for a leading part are stated
on lists of segments: what the written endpoints say is what is read from them again. One endpoint
leads another when its segments are the first ones there; an endpoint is cut where a parameter
stands first in it (`exists_cuts`); and two endpoints differ in the names of their parameters alone
when their segments have the same forms, one by one (`normalized_eq_iff`). From the lists comes an
order in which requests can feed each other's paths: a request precedes another one when its
endpoint has fewer segments, or when it is an earlier step at the same endpoint (`Precedes`).
-/
namespace ApiWiring

open Text

namespace Endpoint

variable {name endpoint : String}

/-- A segment stands for a parameter when it is the name of the parameter in braces. -/
theorem parameterName?_eq_some_iff {segment : String} :
    parameterName? segment = some name ↔ segment = "\x7b" ++ name ++ "\x7d" := by
  have braced : ("\x7b" ++ name ++ "\x7d").toList = '{' :: (name.toList ++ ['}']) := by
    rw [String.toList_append, String.toList_append, List.append_assoc]
    rfl
  constructor
  · intro named
    unfold parameterName? at named
    split at named
    · rename_i rest opened
      split at named
      · rename_i closed
        cases named
        have whole := List.dropLast_append_getLast? '}' closed
        rw [← String.toList_inj, braced, opened, String.toList_ofList, whole]
      · cases named
    · cases named
  · rintro rfl
    rw [parameterName?, braced]
    simp

/-- The segment that stands for the parameter of a name. -/
def braced (name : String) : String := "\x7b" ++ name ++ "\x7d"

/-- A segment stands for a parameter when it is the name of the parameter in braces. -/
theorem isParameter_iff {segment : String} :
    isParameter name segment = true ↔ segment = braced name := by
  rw [isParameter, beq_iff_eq, parameterName?_eq_some_iff, braced]

/-! ## Leading endpoints -/

/-- The segments of one endpoint lead another one when they are its first segments. -/
theorem isLeading_iff {leading : String} :
    isLeading leading endpoint = true ↔ segments leading <+: segments endpoint := by
  rw [isLeading, List.isPrefixOf_iff_prefix]

/-- Two endpoints lead each other when they have the same segments. -/
theorem isLeading_both_iff {left right : String} :
    isLeading left right = true ∧ isLeading right left = true ↔ segments left = segments right := by
  rw [isLeading_iff, isLeading_iff]
  constructor
  · rintro ⟨forth, back⟩
    exact forth.eq_of_length (Nat.le_antisymm forth.length_le back.length_le)
  · intro same
    rw [same]
    exact ⟨List.prefix_rfl, List.prefix_rfl⟩

/-! ## Cuts -/

/-- An endpoint with a parameter is cut before and after the first segment that stands for it. -/
theorem exists_cuts (member : braced name ∈ segments endpoint) : ∃ before through,
    before? name endpoint = some before ∧ through? name endpoint = some through ∧
      segments through = segments before ++ [braced name] ∧ braced name ∉ segments before ∧
        segments through <+: segments endpoint := by
  -- `front` is what stands before the first such segment; the cuts are before and after it.
  obtain ⟨front, back, split, apart⟩ := List.eq_append_cons_of_mem member
  have each : ∀ segment ∈ front ++ [braced name], IsSegment segment := by
    intro segment among
    have listed : segment ∈ (front ++ [braced name]) ++ back := List.mem_append_left _ among
    rw [List.append_assoc, List.singleton_append, ← split] at listed
    exact isSegment_of_mem_segments listed
  have stops : isParameter name (braced name) = true := isParameter_iff.mpr rfl
  have leading : (segments endpoint).takeWhile (!isParameter name ·) = front := by
    have passed : ∀ segment ∈ front, (!isParameter name segment) = true := by
      intro segment early
      rw [Bool.not_eq_true', ← Bool.not_eq_true, isParameter_iff]
      exact fun same => apart (same ▸ early)
    rw [split, List.takeWhile_append_of_pos passed, List.takeWhile_cons_of_neg (by simp [stops]),
      List.append_nil]
  have before : before? name endpoint = some (joinSegments front) := by
    rw [before?, if_pos (List.any_eq_true.mpr ⟨_, member, stops⟩), leading]
  have through : through? name endpoint = some (joinSegments (front ++ [braced name])) := by
    rw [through?, leading, split, List.drop_left]
    rfl
  have readBefore : segments (joinSegments front) = front :=
    segments_joinSegments fun segment early => each segment (List.mem_append_left _ early)
  refine ⟨_, _, before, through, ?_, ?_, ?_⟩
  · rw [segments_joinSegments each, readBefore]
  · rwa [readBefore]
  · rw [segments_joinSegments each, split]
    exact ⟨back, by rw [List.append_assoc, List.singleton_append]⟩

/-- An endpoint without a parameter is not cut there. -/
theorem cuts_eq_none (missing : braced name ∉ segments endpoint) :
    before? name endpoint = none ∧ through? name endpoint = none := by
  have passed : ∀ segment ∈ segments endpoint, isParameter name segment = false := by
    intro segment member
    rw [← Bool.not_eq_true, isParameter_iff]
    exact fun same => missing (same ▸ member)
  constructor
  · rw [before?, if_neg]
    rw [List.any_eq_true]
    rintro ⟨segment, member, found⟩
    rw [passed segment member] at found
    cases found
  · have whole : (segments endpoint).takeWhile (!isParameter name ·) = segments endpoint := by
      rw [List.takeWhile_eq_self_iff]
      intro segment member
      rw [passed segment member]
      rfl
    rw [through?, whole, List.drop_length]
    rfl

/-- An endpoint is cut before a parameter when a segment stands for it. -/
theorem isSome_before?_iff :
    (before? name endpoint).isSome = true ↔ braced name ∈ segments endpoint := by
  by_cases member : braced name ∈ segments endpoint
  · obtain ⟨before, _, cut, _⟩ := exists_cuts member
    exact iff_of_true (by rw [cut]; rfl) member
  · exact iff_of_false (by simp [(cuts_eq_none member).1]) member

/-- An endpoint is cut after a parameter when a segment stands for it. -/
theorem isSome_through?_iff :
    (through? name endpoint).isSome = true ↔ braced name ∈ segments endpoint := by
  by_cases member : braced name ∈ segments endpoint
  · obtain ⟨_, through, _, cut, _⟩ := exists_cuts member
    exact iff_of_true (by rw [cut]; rfl) member
  · exact iff_of_false (by simp [(cuts_eq_none member).2]) member

/-- The cut after a parameter has the segments before it and the one that stands for it. -/
theorem segments_of_cuts {before through : String} (early : before? name endpoint = some before)
    (late : through? name endpoint = some through) :
    segments through = segments before ++ [braced name] ∧ braced name ∉ segments before ∧
      segments through <+: segments endpoint := by
  obtain ⟨_, _, cut, later, facts⟩ := exists_cuts (isSome_before?_iff.mp (by rw [early]; rfl))
  obtain rfl := Option.some.inj (early.symm.trans cut)
  obtain rfl := Option.some.inj (late.symm.trans later)
  exact facts

/-- The endpoint before a parameter has fewer segments. -/
theorem length_segments_before? {before : String} (cut : before? name endpoint = some before) :
    (segments before).length < (segments endpoint).length := by
  have member : braced name ∈ segments endpoint := isSome_before?_iff.mp (by rw [cut]; rfl)
  obtain ⟨through, later⟩ := Option.isSome_iff_exists.mp (isSome_through?_iff.mpr member)
  obtain ⟨longer, _, leads⟩ := segments_of_cuts cut later
  have bounded := leads.length_le
  rw [longer, List.length_append] at bounded
  exact bounded

/-- The endpoint through a parameter leads the endpoint. -/
theorem segments_through? {through : String} (cut : through? name endpoint = some through) :
    segments through <+: segments endpoint := by
  have member : braced name ∈ segments endpoint := isSome_through?_iff.mp (by rw [cut]; rfl)
  obtain ⟨before, earlier⟩ := Option.isSome_iff_exists.mp (isSome_before?_iff.mpr member)
  exact (segments_of_cuts earlier cut).2.2

/-- The name of a parameter at the end of an endpoint has no slash. -/
theorem slash_not_mem_of_endsWithParameter (ends : endsWithParameter name endpoint = true) :
    '/' ∉ name.toList := by
  simp only [endsWithParameter, Option.any_eq_true, isParameter, beq_iff_eq] at ends
  obtain ⟨segment, last, named⟩ := ends
  have apart := (isSegment_of_mem_segments (List.mem_of_getLast? last)).2
  rw [parameterName?_eq_some_iff.mp named, String.toList_append, String.toList_append] at apart
  exact fun inside => apart (List.mem_append_left _ (List.mem_append_right _ inside))

/-! ## Forms -/

/-- A segment without the name of its parameter is a segment. -/
theorem isSegment_eraseName {segment : String} (given : IsSegment segment) :
    IsSegment (eraseName segment) := by
  unfold eraseName
  split
  · exact ⟨by decide, by decide⟩
  · exact given

/-- The segments of an endpoint without parameter names are those of the endpoint, each without its
name. -/
theorem segments_normalized (endpoint : String) :
    segments (normalized endpoint) = (segments endpoint).map eraseName := by
  rw [normalized]
  refine segments_joinSegments fun segment member => ?_
  obtain ⟨given, listed, rfl⟩ := List.mem_map.mp member
  exact isSegment_eraseName (isSegment_of_mem_segments listed)

/-- An endpoint has as many segments without parameter names as it has with them. -/
theorem length_segments_of_normalized_eq {left right : String}
    (same : normalized left = normalized right) :
    (segments left).length = (segments right).length := by
  have counted := congrArg (fun endpoint => (segments endpoint).length) same
  simpa only [segments_normalized, List.length_map] using counted

/-- Whether two segments are one literal or stand for two parameters. -/
def SameForm (left right : String) : Prop :=
  (left = right ∧ ∀ name, left ≠ braced name) ∨
    ∃ name other, left = braced name ∧ right = braced other

/-- Every segment is a literal or stands for a parameter. -/
theorem literal_or_braced (segment : String) :
    (∀ name, segment ≠ braced name) ∨ ∃ name, segment = braced name := by
  rw [← not_exists]
  exact (Classical.em _).symm

/-- Of a segment that stands for a parameter only the braces are left. -/
theorem eraseName_braced (name : String) : eraseName (braced name) = braced "" := by
  have named : parameterName? (braced name) = some name := parameterName?_eq_some_iff.mpr rfl
  rw [eraseName, named]
  rfl

/-- A literal has no name to lose. -/
theorem eraseName_of_literal {segment : String} (literal : ∀ name, segment ≠ braced name) :
    eraseName segment = segment := by
  rw [eraseName, if_neg]
  rw [Option.isSome_iff_exists]
  rintro ⟨name, named⟩
  exact literal name (parameterName?_eq_some_iff.mp named)

/-- A segment has no second name to lose. -/
theorem eraseName_eraseName (segment : String) :
    eraseName (eraseName segment) = eraseName segment := by
  obtain literal | ⟨name, rfl⟩ := literal_or_braced segment
  · rw [eraseName_of_literal literal, eraseName_of_literal literal]
  · rw [eraseName_braced, eraseName_braced]

/-- Segments are equal without the names of parameters when they have the same form. -/
theorem eraseName_eq_iff {left right : String} :
    eraseName left = eraseName right ↔ SameForm left right := by
  constructor
  · intro same
    obtain plain | ⟨name, rfl⟩ := literal_or_braced left
    · rw [eraseName_of_literal plain] at same
      obtain literal | ⟨other, rfl⟩ := literal_or_braced right
      · rw [eraseName_of_literal literal] at same
        exact .inl ⟨same, plain⟩
      · rw [eraseName_braced] at same
        exact absurd same (plain "")
    · rw [eraseName_braced] at same
      obtain literal | ⟨other, rfl⟩ := literal_or_braced right
      · rw [eraseName_of_literal literal] at same
        exact absurd same.symm (literal "")
      · exact .inr ⟨name, other, rfl, rfl⟩
  · rintro (⟨rfl, _⟩ | ⟨name, other, rfl, rfl⟩)
    · rfl
    · rw [eraseName_braced, eraseName_braced]

/-- Two endpoints are equal without the names of their parameters when their segments have the same
forms, one by one. -/
theorem normalized_eq_iff {left right : String} : normalized left = normalized right ↔
    List.Forall₂ SameForm (segments left) (segments right) := by
  have forms : (segments left).map eraseName = (segments right).map eraseName ↔
      List.Forall₂ SameForm (segments left) (segments right) := by
    rw [← List.forall₂_eq_eq_eq, List.forall₂_map_left_iff, List.forall₂_map_right_iff]
    simp only [eraseName_eq_iff]
  rw [← forms]
  constructor
  · intro same
    rw [← segments_normalized, ← segments_normalized, same]
  · exact congrArg joinSegments

/-- Names of parameters are erased once. -/
theorem normalized_normalized (endpoint : String) :
    normalized (normalized endpoint) = normalized endpoint := by
  have again : (segments (normalized endpoint)).map eraseName =
      (segments endpoint).map eraseName := by
    rw [segments_normalized, List.map_map]
    exact List.map_congr_left fun segment _ => eraseName_eraseName segment
  exact congrArg joinSegments again

/-! ## All of the arithmetic -/

/-- What endpoints are asked for is arithmetic on their segments. An endpoint leads another when its
segments are the first ones there, which is a preorder in which two endpoints lead each other
exactly when they have the same segments. The cuts around a parameter exist exactly when a segment
stands for it; then the later one has the segments of the earlier one and that segment, which the
earlier one does not have, and both lead the endpoint. Two endpoints are equal without the names of
their parameters exactly when they have equally many segments and at each place one literal or two
parameters, and erasing the names again changes nothing. -/
theorem segment_arithmetic (first second third name : String) :
    (isLeading first second = true ↔ segments first <+: segments second) ∧
    isLeading first first = true ∧
    (isLeading first second = true → isLeading second third = true →
      isLeading first third = true) ∧
    (isLeading first second = true ∧ isLeading second first = true ↔
      segments first = segments second) ∧
    ((before? name first).isSome = true ↔ braced name ∈ segments first) ∧
    ((through? name first).isSome = true ↔ braced name ∈ segments first) ∧
    (∀ before through, before? name first = some before → through? name first = some through →
      segments through = segments before ++ [braced name] ∧ braced name ∉ segments before ∧
        isLeading before first = true ∧ isLeading through first = true) ∧
    (normalized first = normalized second ↔
      List.Forall₂ SameForm (segments first) (segments second)) ∧
    normalized (normalized first) = normalized first := by
  refine ⟨isLeading_iff, isLeading_iff.mpr List.prefix_rfl, ?_, isLeading_both_iff,
    isSome_before?_iff, isSome_through?_iff, ?_, normalized_eq_iff, normalized_normalized first⟩
  · intro early late
    exact isLeading_iff.mpr ((isLeading_iff.mp early).trans (isLeading_iff.mp late))
  · intro before through early late
    obtain ⟨longer, apart, leads⟩ := segments_of_cuts early late
    have shorter : segments before <+: segments through := longer ▸ List.prefix_append _ _
    exact ⟨longer, apart, isLeading_iff.mpr (shorter.trans leads), isLeading_iff.mpr leads⟩

/-- An endpoint with a doubled and a trailing slash and one parameter twice. -/
def nestedShops : String := "/shops//\x7bid\x7d/\x7bid\x7d/"

/-- `nestedShops` leads what continues an endpoint that it leads, and is cut at the first of its
parameters. -/
theorem nestedShops_segment_arithmetic :
    isLeading nestedShops "/shops/\x7bid\x7d/\x7bid\x7d/items" = true ∧
    isLeading "/shops/\x7bid\x7d/\x7bid\x7d/items" "/shops/\x7bid\x7d/\x7bid\x7d/items/7" = true ∧
    isLeading nestedShops "/shops/\x7bid\x7d/\x7bid\x7d/items/7" = true ∧
    before? "id" nestedShops = some "/shops" ∧
    through? "id" nestedShops = some "/shops/\x7bid\x7d" ∧
    segments "/shops/\x7bid\x7d" = segments "/shops" ++ [braced "id"] ∧
    isLeading "/shops" nestedShops = true ∧ isLeading "/shops/\x7bid\x7d" nestedShops = true := by
  have first : isLeading nestedShops "/shops/\x7bid\x7d/\x7bid\x7d/items" = true := by
    decide +kernel
  have second : isLeading "/shops/\x7bid\x7d/\x7bid\x7d/items"
      "/shops/\x7bid\x7d/\x7bid\x7d/items/7" = true := by decide +kernel
  have early : before? "id" nestedShops = some "/shops" := by decide +kernel
  have late : through? "id" nestedShops = some "/shops/\x7bid\x7d" := by decide +kernel
  obtain ⟨_, _, trans, _, _, _, cuts, _⟩ := segment_arithmetic nestedShops
    "/shops/\x7bid\x7d/\x7bid\x7d/items" "/shops/\x7bid\x7d/\x7bid\x7d/items/7" "id"
  obtain ⟨longer, _, leads⟩ := cuts _ _ early late
  exact ⟨first, second, trans first second, early, late, longer, leads⟩

end Endpoint

namespace RequestId

/-- Whether a request comes before another one in the order in which resources are made: its
endpoint has fewer segments, or it is an earlier step at the same endpoint. -/
def Precedes (earlier later : RequestId) : Prop :=
  (segments earlier.endpoint).length < (segments later.endpoint).length ∨
    earlier.endpoint = later.endpoint ∧ earlier.method.lifecycleRank < later.method.lifecycleRank

variable {first second third : RequestId}

/-- No request precedes itself. -/
theorem not_precedes_self (request : RequestId) : ¬request.Precedes request := by
  rintro (shorter | ⟨_, lower⟩)
  · exact Nat.lt_irrefl _ shorter
  · exact Nat.lt_irrefl _ lower

/-- A request precedes what its successors precede. -/
theorem Precedes.trans (early : first.Precedes second) (late : second.Precedes third) :
    first.Precedes third := by
  obtain shorter | ⟨same, lower⟩ := early
  · obtain next | ⟨alike, _⟩ := late
    · exact .inl (Nat.lt_trans shorter next)
    · exact .inl (alike ▸ shorter)
  · obtain next | ⟨alike, further⟩ := late
    · exact .inl (same ▸ next)
    · exact .inr ⟨same.trans alike, Nat.lt_trans lower further⟩

/-- A relation in which every request is related to one that precedes it has no cycle. -/
theorem not_transGen_self {related : RequestId → RequestId → Prop}
    (each : ∀ later earlier, related later earlier → earlier.Precedes later) (request : RequestId) :
    ¬Relation.TransGen related request request := by
  have descending : ∀ other, Relation.TransGen related request other → other.Precedes request := by
    intro other reached
    induction reached with
    | single step => exact each _ _ step
    | tail _ step ih => exact (each _ _ step).trans ih
  exact fun cycle => not_precedes_self request (descending request cycle)

end RequestId

end ApiWiring
