/-!
# Segments of slash-separated text

Endpoints and pointers are texts of segments, each behind a slash. Reading drops empty segments, so
doubled and trailing slashes mean nothing; writing puts a slash before every segment. Both are
stated on lists of characters, where the proofs are.
-/
namespace ApiWiring.Text

/-- The pieces of a text between occurrences of a separator, empty pieces included. -/
def pieces (separator : Char) : List Char → List (List Char)
  | [] => [[]]
  | c :: rest =>
    if c = separator then [] :: pieces separator rest
    else match pieces separator rest with
      | [] => [[c]]
      | piece :: others => (c :: piece) :: others

/-- The non-empty pieces of a text between slashes. -/
def segments (text : String) : List String :=
  ((pieces '/' text.toList).filter (· ≠ [])).map String.ofList

/-- The characters of a list of segments, each behind a slash. -/
def slashed (segments : List String) : List Char := segments.flatMap ('/' :: ·.toList)

/-- The text of a list of segments, each behind a slash. -/
def joinSegments (segments : List String) : String := String.ofList (slashed segments)

/-- A text always has a piece, and reading never invents a separator. -/
theorem pieces_ne_nil (separator : Char) (text : List Char) : pieces separator text ≠ [] := by
  cases text with
  | nil => simp [pieces]
  | cons c rest =>
    simp only [pieces]
    split
    · simp
    · split <;> simp

/-- No piece contains the separator. -/
theorem separator_not_mem_of_mem_pieces {separator : Char} {text piece : List Char}
    (member : piece ∈ pieces separator text) : separator ∉ piece := by
  induction text generalizing piece with
  | nil => simp_all [pieces]
  | cons c rest ih =>
    simp only [pieces] at member
    split at member
    · rcases List.mem_cons.mp member with rfl | later
      · simp
      · exact ih later
    · rename_i different
      split at member
      · simp only [List.mem_singleton] at member
        subst member
        simpa using fun same => different same.symm
      · rename_i head others found
        rcases List.mem_cons.mp member with rfl | later
        · have : separator ∉ head := ih (by simp [found])
          simp only [List.mem_cons, not_or]
          exact ⟨fun same => different same.symm, this⟩
        · exact ih (by simp [found, later])

/-- The pieces hold all characters other than separators, in order. -/
theorem flatten_pieces (separator : Char) (text : List Char) :
    (pieces separator text).flatten = text.filter (· ≠ separator) := by
  induction text with
  | nil => simp [pieces]
  | cons c rest ih =>
    by_cases same : c = separator
    · simpa [pieces, same] using ih
    · cases found : pieces separator rest with
      | nil => exact absurd found (pieces_ne_nil separator rest)
      | cons piece others =>
        simp only [found, List.flatten_cons] at ih
        simp [pieces, same, found, ih]

/-- The characters of written segments. -/
theorem toList_joinSegments (segments : List String) :
    (joinSegments segments).toList = slashed segments := by
  simp [joinSegments]

end ApiWiring.Text
