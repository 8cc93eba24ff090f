import ApiWiring.Text.Segments

/-!
# Stretches of spelled characters

A table of spellings is a list of stretches in rising order. A stretch holds the spellings of
neighbouring characters, divided by single blanks; between two blanks that touch stands a character
with an empty spelling. So no spelling of a stretch has a blank in it (`blank_not_mem_spelledIn`).
-/
namespace ApiWiring.Text.Spelling

/-- The code point of the first character, and the spellings of it and its followers. -/
abbrev Stretch := Nat × String

/-- The spelling of a code point in a table, which its last stretch that starts in time gives. -/
def spelledIn (table : List Stretch) (code : Nat) : Option (List Char) :=
  (table.takeWhile (·.1 ≤ code)).getLast?.bind fun (first, spellings) =>
    (pieces ' ' spellings.toList)[code - first]?.filter (· ≠ [])

/-- A spelling from a table is not empty. -/
theorem spelledIn_ne_nil {table : List Stretch} {code : Nat} {spelling : List Char}
    (spelled : spelledIn table code = some spelling) : spelling ≠ [] := by
  obtain ⟨stretch, -, found⟩ := Option.bind_eq_some_iff.mp spelled
  simpa using (Option.filter_eq_some_iff.mp found).2

/-- No blank stands in a spelling from a table. -/
theorem blank_not_mem_spelledIn {table : List Stretch} {code : Nat} {spelling : List Char}
    (spelled : spelledIn table code = some spelling) : ' ' ∉ spelling := by
  obtain ⟨stretch, -, found⟩ := Option.bind_eq_some_iff.mp spelled
  exact separator_not_mem_of_mem_pieces
    (List.mem_of_getElem? (Option.filter_eq_some_iff.mp found).1)

end ApiWiring.Text.Spelling
