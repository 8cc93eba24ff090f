import ApiWiring.Text.Segments
import Mathlib.Data.List.Basic

/-!
# Reading what was written

Cutting a text at a separator undoes joining pieces that do not contain it, and reading segments
undoes writing them, as long as each of them can be read at all: it is not empty and holds no slash
(`IsSegment`). Every segment that reading gives is of this kind. Writing undoes reading for the
texts that have no empty piece behind their first slash (`joinSegments_segments_iff`); a text has an
empty piece where it begins or ends with the separator or has two of them in a row
(`nil_mem_pieces_iff`).
-/
namespace ApiWiring.Text

/-- Cutting at a separator is what the library calls splitting. -/
theorem pieces_eq_splitOn (separator : Char) (text : List Char) :
    pieces separator text = text.splitOn separator := by
  induction text with
  | nil => rfl
  | cons c rest ih =>
    rw [List.splitOn, List.splitOnP_cons_eq_if_modifyHead, ← List.splitOn, ← ih, pieces]
    by_cases same : c = separator
    · simp [same]
    · rw [if_neg same, if_neg (by simpa using same)]
      cases found : pieces separator rest with
      | nil => exact absurd found (pieces_ne_nil separator rest)
      | cons piece others => rfl

/-- Cutting a joined text gives its pieces, if there are any and none contains the separator. -/
theorem pieces_intercalate {separator : Char} {words : List (List Char)}
    (apart : ∀ word ∈ words, separator ∉ word) (present : words ≠ []) :
    pieces separator ([separator].intercalate words) = words := by
  rw [pieces_eq_splitOn, List.splitOn_intercalate separator apart present]

/-- A text is cut at each occurrence of the separator. -/
theorem pieces_append_cons (separator : Char) (left right : List Char) :
    pieces separator (left ++ separator :: right) =
      pieces separator left ++ pieces separator right := by
  simp only [pieces_eq_splitOn, List.splitOn]
  exact List.splitOnP_append_cons left right (by simp)

/-- A text without the separator is one piece. -/
theorem pieces_of_not_mem {separator : Char} {text : List Char} (apart : separator ∉ text) :
    pieces separator text = [text] := by
  have joined : [separator].intercalate [text] = text := by simp [List.intercalate]
  rw [← joined, pieces_intercalate (by simpa using apart) (by simp)]
  simp [List.intercalate]

/-- Cutting a text whose characters were changed, the separator alone into itself, changes the
pieces. -/
theorem pieces_map {separator : Char} {change : Char → Char}
    (alone : ∀ c, change c = separator ↔ c = separator) (text : List Char) :
    pieces separator (text.map change) = (pieces separator text).map (List.map change) := by
  induction text with
  | nil => rfl
  | cons c rest ih =>
    rw [List.map_cons, pieces, pieces, ih]
    by_cases same : c = separator
    · rw [if_pos same, if_pos ((alone c).mpr same)]
      rfl
    · rw [if_neg same, if_neg fun changed => same ((alone c).mp changed)]
      cases pieces separator rest with
      | nil => rfl
      | cons piece others => rfl

/-- A text is known by its pieces. -/
theorem pieces_inj {separator : Char} {left right : List Char} :
    pieces separator left = pieces separator right ↔ left = right := by
  refine ⟨fun same => ?_, congrArg (pieces separator)⟩
  rw [pieces_eq_splitOn, pieces_eq_splitOn] at same
  have joined := congrArg [separator].intercalate same
  rwa [List.intercalate_splitOn, List.intercalate_splitOn] at joined

/-- Two lists of pieces are joined one after the other, with the separator between them. -/
theorem intercalate_append {separator : Char} {left right : List (List Char)} (before : left ≠ [])
    (after : right ≠ []) :
    [separator].intercalate (left ++ right) =
      [separator].intercalate left ++ separator :: [separator].intercalate right := by
  induction left with
  | nil => exact absurd rfl before
  | cons piece rest ih =>
    cases rest with
    | nil =>
      obtain ⟨next, later, rfl⟩ := List.exists_cons_of_ne_nil after
      rw [List.singleton_append, List.intercalate_cons_cons, List.intercalate_singleton,
        List.append_assoc, List.singleton_append]
    | cons other more =>
      rw [List.cons_append, List.cons_append, List.intercalate_cons_cons, ← List.cons_append,
        ih (by simp), List.intercalate_cons_cons, List.append_assoc, List.append_assoc,
        List.append_assoc]

/-- A text has an empty piece when it is empty itself, or begins or ends with the separator, or has
two separators in a row. -/
theorem nil_mem_pieces_iff {separator : Char} {text : List Char} :
    [] ∈ pieces separator text ↔ text = [] ∨ text.head? = some separator ∨
      text.getLast? = some separator ∨ [separator, separator] <:+: text := by
  constructor
  · intro empty
    obtain ⟨front, back, cut⟩ := List.append_of_mem empty
    have joined : text = [separator].intercalate (front ++ [] :: back) := by
      rw [← cut, pieces_eq_splitOn, List.intercalate_splitOn]
    match front, back with
    | [], [] => exact .inl joined
    | [], next :: later =>
      rw [List.nil_append, List.intercalate_cons_cons] at joined
      exact .inr (.inl (by rw [joined]; rfl))
    | first :: others, [] =>
      rw [intercalate_append (by simp) (by simp)] at joined
      exact .inr (.inr (.inl (by rw [joined]; simp)))
    | first :: others, next :: later =>
      rw [intercalate_append (by simp) (by simp), List.intercalate_cons_cons] at joined
      exact .inr (.inr (.inr ⟨[separator].intercalate (first :: others),
        [separator].intercalate (next :: later), by rw [joined]; simp⟩))
  · rintro (rfl | opened | closed | ⟨front, back, rfl⟩)
    · exact .head _
    · obtain ⟨rest, rfl⟩ := List.head?_eq_some_iff.mp opened
      simp [pieces]
    · obtain ⟨front, rfl⟩ := List.getLast?_eq_some_iff.mp closed
      rw [pieces_append_cons]
      exact List.mem_append_right _ (.head _)
    · have doubled : front ++ [separator, separator] ++ back =
          front ++ separator :: ([] ++ separator :: back) := by simp
      rw [doubled, pieces_append_cons, pieces_append_cons]
      exact List.mem_append_right _ (.head _)

/-- Whether a text can be read as a segment. -/
def IsSegment (text : String) : Prop := text.toList ≠ [] ∧ '/' ∉ text.toList

/-- Segments read can be read again. -/
theorem isSegment_of_mem_segments {text segment : String} (member : segment ∈ segments text) :
    IsSegment segment := by
  obtain ⟨piece, kept, rfl⟩ := List.mem_map.mp member
  obtain ⟨cut, present⟩ := List.mem_filter.mp kept
  rw [IsSegment, String.toList_ofList]
  exact ⟨by simpa using present, separator_not_mem_of_mem_pieces cut⟩

/-- The pieces of written segments are the segments. -/
theorem pieces_slashed {written : List String} (each : ∀ segment ∈ written, IsSegment segment) :
    (pieces '/' (slashed written)).filter (· ≠ []) = written.map String.toList := by
  induction written with
  | nil => rfl
  | cons segment rest ih =>
    obtain ⟨⟨present, apart⟩, others⟩ := List.forall_mem_cons.mp each
    have opened : slashed (segment :: rest) = [] ++ '/' :: (segment.toList ++ slashed rest) := by
      simp [slashed]
    have later : (pieces '/' (segment.toList ++ slashed rest)).filter (· ≠ []) =
        segment.toList :: (pieces '/' (slashed rest)).filter (· ≠ []) := by
      cases rest with
      | nil => simp [slashed, pieces_of_not_mem apart, pieces, present]
      | cons next more =>
        have reopened : slashed (next :: more) = '/' :: (next.toList ++ slashed more) := by
          simp [slashed]
        rw [reopened, pieces_append_cons, pieces_of_not_mem apart]
        simp [pieces, present]
    rw [opened, pieces_append_cons, List.filter_append, later, ih others]
    simp [pieces]

/-- A segment is written behind a slash and before the others. -/
theorem joinSegments_cons (segment : String) (rest : List String) :
    joinSegments (segment :: rest) = "/" ++ segment ++ joinSegments rest := by
  rw [← String.toList_inj, String.toList_append, String.toList_append, toList_joinSegments,
    toList_joinSegments, slashed, List.flatMap_cons]
  rfl

/-- Reading written segments gives them back. -/
theorem segments_joinSegments {written : List String}
    (each : ∀ segment ∈ written, IsSegment segment) :
    segments (joinSegments written) = written := by
  rw [segments, toList_joinSegments, pieces_slashed each, List.map_map]
  exact List.map_id'' (fun segment => String.ofList_toList) written

/-- Written segments, if there are any, are a slash and the segments joined by slashes. -/
theorem slashed_eq_cons {segments : List String} (present : segments ≠ []) :
    slashed segments = '/' :: ['/'].intercalate (segments.map String.toList) := by
  induction segments with
  | nil => exact absurd rfl present
  | cons segment rest ih =>
    cases rest with
    | nil => simp [slashed]
    | cons next later =>
      have opened : slashed (segment :: next :: later) =
          '/' :: segment.toList ++ slashed (next :: later) := List.flatMap_cons ..
      rw [opened, ih (by simp)]
      simp [List.intercalate_cons_cons]

/-- Writing undoes reading for the texts that are empty or a slash and non-empty pieces between
slashes. -/
theorem joinSegments_segments_iff {text : String} : joinSegments (segments text) = text ↔
    text = "" ∨ ∃ rest, text.toList = '/' :: rest ∧ [] ∉ pieces '/' rest := by
  rw [← String.toList_inj, toList_joinSegments]
  constructor
  · intro same
    by_cases present : segments text = []
    · rw [present] at same
      exact .inl (String.toList_eq_nil_iff.mp same.symm)
    · have each : ∀ piece ∈ (segments text).map String.toList, piece ≠ [] ∧ '/' ∉ piece := by
        intro piece member
        obtain ⟨segment, listed, rfl⟩ := List.mem_map.mp member
        exact isSegment_of_mem_segments listed
      rw [slashed_eq_cons present] at same
      refine .inr ⟨_, same.symm, ?_⟩
      rw [pieces_intercalate (fun piece member => (each piece member).2) (by simpa using present)]
      exact fun empty => (each [] empty).1 rfl
  · rintro (rfl | ⟨rest, opened, full⟩)
    · rfl
    · have kept : (pieces '/' rest).filter (· ≠ []) = pieces '/' rest := by
        rw [List.filter_eq_self]
        intro piece member
        exact decide_eq_true fun empty => full (empty ▸ member)
      have read : segments text = (pieces '/' rest).map String.ofList := by
        rw [segments, opened, pieces, if_pos rfl, List.filter_cons_of_neg (by simp), kept]
      have present : segments text ≠ [] := by
        simpa [read] using pieces_ne_nil '/' rest
      rw [slashed_eq_cons present, read, List.map_map, opened]
      have again : (pieces '/' rest).map (String.toList ∘ String.ofList) = pieces '/' rest :=
        List.map_id'' (fun piece => String.toList_ofList) _
      rw [again, pieces_eq_splitOn, List.intercalate_splitOn]

end ApiWiring.Text
