import ApiWiring.Api.AccessPath
import ApiWiring.Proofs.Text.Segments

/-!
# Pointers of access paths

A path is written as a pointer, each of its components behind a slash, and a pointer is read as the
non-empty pieces between its slashes. Reading undoes writing for the paths whose components are
neither empty nor hold a slash (`ofPointer_pointer_iff`); writing undoes reading for the texts in
which every slash has a piece behind it and nothing stands before the first one
(`pointer_ofPointer_iff`).
-/
namespace ApiWiring.AccessPath

open Text

variable {path : AccessPath} {text : String}

/-- The pointer of a path is read back as the path when its components can be segments. -/
theorem ofPointer_pointer_iff : ofPointer path.pointer = path ↔
    ∀ component ∈ path.parts, component ≠ "" ∧ '/' ∉ component.toList := by
  have segment_iff : ∀ component : String,
      IsSegment component ↔ component ≠ "" ∧ '/' ∉ component.toList := by
    intro component
    rw [IsSegment, ne_eq, String.toList_eq_nil_iff]
  constructor
  · intro same component member
    rw [← same] at member
    exact (segment_iff component).mp (isSegment_of_mem_segments member)
  · intro each
    have read : segments path.pointer = path.parts :=
      segments_joinSegments fun component member =>
        (segment_iff component).mpr (each component member)
    rw [ofPointer, read]

/-- A text is written again as it was read when it is empty or begins with a slash, does not end
with one and has no two of them in a row. -/
theorem pointer_ofPointer_iff : (ofPointer text).pointer = text ↔
    text = "" ∨ text.toList.head? = some '/' ∧ text.toList.getLast? ≠ some '/' ∧
      ¬['/', '/'] <:+: text.toList := by
  have written : (ofPointer text).pointer = joinSegments (segments text) := rfl
  rw [written, joinSegments_segments_iff]
  -- A slash at the front of what is behind the first one is a doubled slash of the text; a slash at
  -- its end, or two in a row in it, are the text's own.
  refine or_congr_right ⟨?_, ?_⟩
  · rintro ⟨rest, opened, full⟩
    rw [nil_mem_pieces_iff] at full
    push Not at full
    obtain ⟨present, apart, last, inner⟩ := full
    rw [opened]
    refine ⟨rfl, ?_, fun doubled => ?_⟩
    · rwa [List.getLast?_cons_of_ne_nil present]
    · rcases List.infix_cons_iff.mp doubled with atFront | later
      · obtain ⟨more, rfl⟩ := (List.cons_prefix_cons.mp atFront).2
        exact apart rfl
      · exact inner later
  · rintro ⟨opened, last, inner⟩
    obtain ⟨rest, begun⟩ := List.head?_eq_some_iff.mp opened
    rw [begun] at last inner
    refine ⟨rest, begun, fun empty => ?_⟩
    rcases nil_mem_pieces_iff.mp empty with rfl | again | closed | doubled
    · exact last rfl
    · obtain ⟨more, rfl⟩ := List.head?_eq_some_iff.mp again
      exact inner ⟨[], more, rfl⟩
    · have present : rest ≠ [] := by
        rintro rfl
        cases closed
      exact last ((List.getLast?_cons_of_ne_nil present).trans closed)
    · exact inner (List.infix_cons doubled)

/-- Paths and pointers tell each other. A path is read back from its pointer exactly when none of
its components is empty or holds a slash. A text is the pointer of the path that it writes exactly
when it is empty, or begins with a slash, does not end with one and has no two of them in a row.
Reading a pointer, writing the path and reading again changes nothing, whatever the text. -/
theorem pointer_round_trips :
    (∀ path : AccessPath, ofPointer path.pointer = path ↔
      ∀ component ∈ path.parts, component ≠ "" ∧ '/' ∉ component.toList) ∧
    (∀ text : String, (ofPointer text).pointer = text ↔
      text = "" ∨ text.toList.head? = some '/' ∧ text.toList.getLast? ≠ some '/' ∧
        ¬['/', '/'] <:+: text.toList) ∧
    ∀ text : String, ofPointer (ofPointer text).pointer = ofPointer text := by
  refine ⟨fun _ => ofPointer_pointer_iff, fun _ => pointer_ofPointer_iff, fun text => ?_⟩
  have read : segments (joinSegments (segments text)) = segments text :=
    segments_joinSegments fun _ member => isSegment_of_mem_segments member
  exact congrArg AccessPath.mk read

end ApiWiring.AccessPath
