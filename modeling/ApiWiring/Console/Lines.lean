import ApiWiring.Text.Cluster
import ApiWiring.Text.DisplayWidth
import ApiWiring.Text.Segments

/-!
# Breaking text into lines

A text that takes more cells than a line has is broken between words. A word goes to the next line
when it does not fit, unless it would not fit there either: then it is cut at the end of the line,
between clusters, but not where hardly any room is left. A line with hardly any room left is
complete. The lines hold the characters of the text in order, blanks apart (`ink_linesOf`).
-/
namespace ApiWiring.Console

open Text

/-- The room at the end of a line in which nothing more is begun. -/
def margin : Nat := 2

/-- How many characters at the front of a text, given as clusters, fit into a room. -/
def fitting (room : Nat) : List (List Char) → Nat
  | [] => 0
  | cluster :: rest =>
    if widthOf cluster ≤ room then cluster.length + fitting (room - widthOf cluster) rest else 0

/-- A line with one more word. -/
def extend (line word : List Char) : List Char := if line = [] then word else line ++ ' ' :: word

/-- The room that is left in a line for one more word. -/
def roomAfter (width : Nat) (line : List Char) : Nat :=
  width - widthOf line - if line = [] then 0 else 1

/-- Whether a line has hardly any room left. -/
def isFull (width : Nat) (line : List Char) : Bool := width - margin < widthOf line

/-- The lines of a list of words, the first of them begun already. -/
def fill (width : Nat) (line : List Char) : List (List Char) → List (List Char)
  | [] => if line = [] then [] else [line]
  | word :: rest =>
    let extended := extend line word
    let parts := widthOf line + widthOf word + if line = [] then 0 else 1
    if parts ≤ width then
      if isFull width extended then extended :: fill width [] rest
      else fill width extended rest
    else if begun : line ≠ [] ∧ roomAfter width line ≤ margin then
      line :: fill width [] (word :: rest)
    else if long : word ≠ [] ∧ width < widthOf word then
      -- On a fresh line one character is taken at least, be it wider than the line.
      let fits := fitting (roomAfter width line) (clusters word)
      let taken := if line = [] then max 1 fits else fits
      extend line (word.take taken) :: fill width [] (word.drop taken :: rest)
    else if isFull width word then line :: word :: fill width [] rest
    else line :: fill width word rest
termination_by words => (words.flatten.length + words.length, line.length)
decreasing_by
  all_goals simp_wf
  · omega
  · omega
  · have := List.length_pos_iff.mpr begun.1
    omega
  · have word := List.length_pos_iff.mpr long.1
    by_cases fresh : line = []
    · rw [if_pos fresh, Prod.lex_def]
      omega
    · have := List.length_pos_iff.mpr fresh
      rw [if_neg fresh, Prod.lex_def]
      omega
  · omega
  · omega

/-- The lines of a text without line breaks. -/
def linesOf (width : Nat) (text : List Char) : List (List Char) :=
  if width < widthOf text then fill width [] (pieces ' ' text) else [text]

/-- Whether a character is no blank. -/
def isInk (c : Char) : Bool := c ≠ ' '

/-- Joining a word to a line keeps the characters of both. -/
theorem ink_extend (line word : List Char) :
    (extend line word).filter isInk = line.filter isInk ++ word.filter isInk := by
  by_cases empty : line = []
  · simp [extend, empty]
  · simp [extend, empty, isInk]

/-- Breaking words into lines keeps their characters in order. -/
theorem ink_fill (width : Nat) (line : List Char) (words : List (List Char)) :
    (fill width line words).flatten.filter isInk =
      line.filter isInk ++ words.flatten.filter isInk := by
  fun_induction fill width line words with
  | case1 => simp_all
  | case2 => simp
  | case3 line word _ extended _ _ _ ih =>
    have joined : extended.filter isInk = _ := ink_extend line word
    simp [ih, joined]
  | case4 line word _ extended _ _ _ ih =>
    have joined : extended.filter isInk = _ := ink_extend line word
    simp [ih, joined]
  | case5 => simp_all
  | case6 line word _ _ _ _ _ _ taken ih =>
    have whole : (word.take taken).filter isInk ++ (word.drop taken).filter isInk =
        word.filter isInk := by rw [← List.filter_append, List.take_append_drop]
    simp only [List.flatten_cons, List.filter_append, ih, ink_extend, List.filter_nil,
      List.nil_append, List.append_assoc, ← whole]
  | case7 => simp_all
  | case8 => simp_all

/-- Breaking a text into lines keeps its characters in order. -/
theorem ink_linesOf (width : Nat) (text : List Char) :
    (linesOf width text).flatten.filter isInk = text.filter isInk := by
  simp only [linesOf]
  split
  · rw [ink_fill, flatten_pieces, List.filter_filter]
    exact List.filter_congr fun c _ => by simp [isInk]
  · simp

end ApiWiring.Console
