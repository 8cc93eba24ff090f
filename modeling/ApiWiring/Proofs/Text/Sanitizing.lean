import ApiWiring.Proofs.Text.Identifier

/-!
# Sanitized texts

A sanitized text consists of the runs of letters and digits of the spelled text, the non-empty
pieces between all other characters (`alphanumericRuns_eq_splitOnP`), joined by single underscores.
A character that is no letter or digit divides the runs before it from those behind it
(`alphanumericRuns_append_cons`); everything else follows from this. So a sanitized text has the
runs of the text it was made of, sanitizing it again changes nothing, and it has no empty word, that
is, no underscore at an end or behind another. How characters beyond ASCII are spelled does not
matter, as long as those of ASCII stand for themselves.
-/
namespace ApiWiring.Text

variable {c : Char} {text left right : List Char}

/-! ## Runs -/

/-- The first piece of a text is empty when the text does not begin with a letter or a digit. -/
theorem first_piece_eq_nil_iff {piece : List Char} {others : List (List Char)}
    (cut : text.splitOnP (!·.isAlphanum) = piece :: others) :
    piece = [] ↔ ∀ d ∈ text.head?, d.isAlphanum = false := by
  cases text with
  | nil =>
    rw [List.splitOnP_nil, List.cons.injEq] at cut
    simp [← cut.1]
  | cons d later =>
    rw [List.splitOnP_cons_eq_if_modifyHead] at cut
    by_cases alphanumeric : d.isAlphanum = true
    · obtain ⟨inner, behind, split⟩ :=
        List.exists_cons_of_ne_nil (List.splitOnP_ne_nil (!·.isAlphanum) later)
      rw [if_neg (by simp [alphanumeric]), split, List.modifyHead_cons, List.cons.injEq] at cut
      simp [← cut.1, alphanumeric]
    · rw [if_pos (by simpa using alphanumeric), List.cons.injEq] at cut
      simp [← cut.1, alphanumeric]

/-- The runs of letters and digits are the non-empty pieces between the other characters. -/
theorem alphanumericRuns_eq_splitOnP (text : List Char) :
    alphanumericRuns text = (text.splitOnP (!·.isAlphanum)).filter (· ≠ []) := by
  induction text with
  | nil => rfl
  | cons c rest ih =>
    rw [List.splitOnP_cons_eq_if_modifyHead]
    by_cases alphanumeric : c.isAlphanum = true
    · obtain ⟨piece, others, cut⟩ :=
        List.exists_cons_of_ne_nil (List.splitOnP_ne_nil (!·.isAlphanum) rest)
      rw [if_neg (by simp [alphanumeric]), cut, List.modifyHead_cons,
        List.filter_cons_of_pos (by simp)]
      rw [cut] at ih
      -- Either way the letter is put before the first piece: an empty one was no run before, a full
      -- one was the first.
      rcases alphanumericRuns_cons_of_alphanumeric alphanumeric rest with
        ⟨alone, stops⟩ | ⟨run, more, found, joined, d, starts, next⟩
      · have empty : piece = [] := (first_piece_eq_nil_iff cut).mpr stops
        rw [empty, List.filter_cons_of_neg (by simp)] at ih
        rw [alone, ih, empty]
      · have full : piece ≠ [] := by
          rw [ne_eq, first_piece_eq_nil_iff cut]
          intro stops
          simp [stops d starts] at next
        rw [ih, List.filter_cons_of_pos (by simpa using full), List.cons.injEq] at found
        rw [joined, found.1, found.2]
    · have foreign : c.isAlphanum = false := by simpa using alphanumeric
      rw [alphanumericRuns_cons_of_foreign foreign, ih, if_pos (by simp [foreign]),
        List.filter_cons_of_neg (by simp)]

/-- A character other than letters and digits divides the runs of a text. -/
theorem alphanumericRuns_append_cons (foreign : c.isAlphanum = false) :
    alphanumericRuns (left ++ c :: right) = alphanumericRuns left ++ alphanumericRuns right := by
  rw [alphanumericRuns_eq_splitOnP, List.splitOnP_append_cons _ _ (by simp [foreign]),
    List.filter_append, ← alphanumericRuns_eq_splitOnP, ← alphanumericRuns_eq_splitOnP]

/-- A run is all the runs that it has. -/
theorem IsRun.alphanumericRuns_eq {word : List Char} (run : IsRun word) :
    alphanumericRuns word = [word] := by
  have whole : word.splitOnP (!·.isAlphanum) = [word] :=
    List.splitOnP_eq_singleton fun c member => by simp [run.2 c member]
  rw [alphanumericRuns_eq_splitOnP, whole, List.filter_cons_of_pos (by simpa using run.1)]
  rfl

/-- Joined runs have the runs that were joined. -/
theorem alphanumericRuns_intercalate {words : List (List Char)}
    (each : ∀ word ∈ words, IsRun word) : alphanumericRuns (['_'].intercalate words) = words := by
  induction words with
  | nil => rfl
  | cons word rest ih =>
    obtain ⟨run, others⟩ := List.forall_mem_cons.mp each
    cases rest with
    | nil => rw [List.intercalate_singleton, run.alphanumericRuns_eq]
    | cons next later =>
      rw [List.intercalate_cons_cons, List.append_assoc, List.singleton_append,
        alphanumericRuns_append_cons (by decide), run.alphanumericRuns_eq, ih others]
      rfl

/-! ## Identifiers -/

/-- The runs of an identifier are those of the text it was made of. -/
theorem alphanumericRuns_identifierOfAscii (text : List Char) :
    alphanumericRuns (identifierOfAscii text) = alphanumericRuns text := by
  rw [identifierOfAscii_eq_intercalate,
    alphanumericRuns_intercalate fun _ member => isRun_of_mem_alphanumericRuns member]

/-- An identifier is empty when its text has no runs. -/
theorem identifierOfAscii_eq_nil_iff :
    identifierOfAscii text = [] ↔ alphanumericRuns text = [] := by
  constructor
  · intro empty
    rw [← alphanumericRuns_identifierOfAscii, empty]
    rfl
  · intro missing
    rw [identifierOfAscii_eq_intercalate, missing]
    rfl

/-- An identifier that is not empty has no empty word. -/
theorem nil_not_mem_pieces_identifierOfAscii (present : identifierOfAscii text ≠ []) :
    [] ∉ pieces '_' (identifierOfAscii text) := by
  have words : pieces '_' (identifierOfAscii text) = alphanumericRuns text := by
    rw [pieces_identifierOfAscii, identifierWords]
    split
    · rename_i missing
      exact absurd (identifierOfAscii_eq_nil_iff.mpr missing) present
    · rename_i words
      exact words.symm
  rw [words]
  exact fun empty => (isRun_of_mem_alphanumericRuns empty).1 rfl

/-- Making an identifier of an identifier changes nothing. -/
theorem identifierOfAscii_identifierOfAscii (text : List Char) :
    identifierOfAscii (identifierOfAscii text) = identifierOfAscii text := by
  rw [identifierOfAscii_eq_intercalate (identifierOfAscii text),
    alphanumericRuns_identifierOfAscii, identifierOfAscii_eq_intercalate]

/-- An identifier has no underscore at its ends and no two of them in a row. -/
theorem underscores_of_identifierOfAscii (text : List Char) :
    (identifierOfAscii text).head? ≠ some '_' ∧ (identifierOfAscii text).getLast? ≠ some '_' ∧
      ¬['_', '_'] <:+: identifierOfAscii text := by
  by_cases present : identifierOfAscii text = []
  · rw [present]
    exact ⟨nofun, nofun, by simp⟩
  · have full := nil_not_mem_pieces_identifierOfAscii present
    rw [nil_mem_pieces_iff] at full
    push Not at full
    exact full.2

/-- The identifiers of two texts that a character other than letters and digits divides are joined
by an underscore, unless one of them is empty. -/
theorem identifierOfAscii_append_cons (foreign : c.isAlphanum = false) :
    identifierOfAscii (left ++ c :: right) =
      if identifierOfAscii left = [] then identifierOfAscii right
      else if identifierOfAscii right = [] then identifierOfAscii left
      else identifierOfAscii left ++ '_' :: identifierOfAscii right := by
  have joined : identifierOfAscii (left ++ c :: right) =
      ['_'].intercalate (alphanumericRuns left ++ alphanumericRuns right) := by
    rw [identifierOfAscii_eq_intercalate, alphanumericRuns_append_cons foreign]
  rw [joined]
  split_ifs with before behind
  · rw [identifierOfAscii_eq_nil_iff.mp before, List.nil_append, identifierOfAscii_eq_intercalate]
  · rw [identifierOfAscii_eq_nil_iff.mp behind, List.append_nil, identifierOfAscii_eq_intercalate]
  · rw [identifierOfAscii_eq_nil_iff] at before behind
    rw [intercalate_append before behind, ← identifierOfAscii_eq_intercalate,
      ← identifierOfAscii_eq_intercalate]

/-! ## Sanitized texts -/

variable {spelling : Char → List Char}

/-- ASCII text is spelled as it is when every character of ASCII stands for itself. -/
theorem flatMap_of_own (own : ∀ c : Char, c.toNat < 128 → spelling c = [c])
    (ascii : ∀ c ∈ text, c.toNat < 128) : text.flatMap spelling = text := by
  rw [List.flatMap_congr fun c member => own c (ascii c member)]
  exact List.flatMap_singleton' text

/-- The characters of a sanitized text are those of the identifier that its spelling becomes. -/
theorem toList_sanitizeBy (spelling : Char → List Char) (text : String) :
    (sanitizeBy spelling text).toList = identifierOfAscii (text.toList.flatMap spelling) := by
  rw [sanitizeBy, String.toList_ofList]

/-- Sanitizing a sanitized text changes nothing. -/
theorem sanitizeBy_sanitizeBy (own : ∀ c : Char, c.toNat < 128 → spelling c = [c])
    (text : String) :
    sanitizeBy spelling (sanitizeBy spelling text) = sanitizeBy spelling text := by
  have ascii : ∀ c ∈ (sanitizeBy spelling text).toList, c.toNat < 128 := by
    rw [toList_sanitizeBy]
    exact fun c member => isAscii_of_mem_identifierOfAscii member
  rw [← String.toList_inj, toList_sanitizeBy, flatMap_of_own own ascii, toList_sanitizeBy,
    identifierOfAscii_identifierOfAscii]

/-- A sanitized text is empty when its spelling becomes an empty identifier. -/
theorem sanitizeBy_eq_empty_iff {text : String} : sanitizeBy spelling text = "" ↔
    identifierOfAscii (text.toList.flatMap spelling) = [] := by
  rw [← toList_sanitizeBy, String.toList_eq_nil_iff]

/-- Two texts that a character of ASCII other than letters and digits divides are sanitized one by
one. -/
theorem sanitizeBy_push_append (own : ∀ c : Char, c.toNat < 128 → spelling c = [c])
    {separator : Char} (ascii : separator.toNat < 128) (foreign : separator.isAlphanum = false)
    (before behind : String) :
    sanitizeBy spelling (before.push separator ++ behind) =
      if sanitizeBy spelling before = "" then sanitizeBy spelling behind
      else if sanitizeBy spelling behind = "" then sanitizeBy spelling before
      else sanitizeBy spelling before ++ "_" ++ sanitizeBy spelling behind := by
  have spelled : (before.push separator ++ behind).toList.flatMap spelling =
      before.toList.flatMap spelling ++ separator :: behind.toList.flatMap spelling := by
    rw [String.toList_append, String.toList_push, List.flatMap_append, List.flatMap_append,
      List.flatMap_singleton, own separator ascii, List.append_assoc, List.singleton_append]
  rw [← String.toList_inj, toList_sanitizeBy, spelled, identifierOfAscii_append_cons foreign]
  simp only [sanitizeBy_eq_empty_iff]
  split_ifs
  · rw [toList_sanitizeBy]
  · rw [toList_sanitizeBy]
  · rw [String.toList_append, String.toList_append, toList_sanitizeBy, toList_sanitizeBy,
      List.append_assoc]
    rfl

/-- However characters beyond ASCII are spelled, if those of ASCII stand for themselves a sanitized
text consists of the runs of letters and digits of its spelling, joined by single underscores. So it
has letters, digits and underscores only, and no underscore at its ends or behind another.
Sanitizing it again changes nothing, and two texts divided by a character of ASCII that is no letter
or digit are sanitized one by one, with one underscore between them if both leave something. -/
theorem sanitized_runs (own : ∀ c : Char, c.toNat < 128 → spelling c = [c]) :
    (∀ text : String, (sanitizeBy spelling text).toList = ['_'].intercalate
      (((text.toList.flatMap spelling).splitOnP (!·.isAlphanum)).filter (· ≠ []))) ∧
    (∀ text : String,
      (∀ c ∈ (sanitizeBy spelling text).toList, c.isAlphanum = true ∨ c = '_') ∧
      (sanitizeBy spelling text).toList.head? ≠ some '_' ∧
      (sanitizeBy spelling text).toList.getLast? ≠ some '_' ∧
      ¬['_', '_'] <:+: (sanitizeBy spelling text).toList) ∧
    (∀ text : String,
      sanitizeBy spelling (sanitizeBy spelling text) = sanitizeBy spelling text) ∧
    ∀ (before behind : String) (separator : Char), separator.toNat < 128 →
      separator.isAlphanum = false →
        sanitizeBy spelling (before.push separator ++ behind) =
          if sanitizeBy spelling before = "" then sanitizeBy spelling behind
          else if sanitizeBy spelling behind = "" then sanitizeBy spelling before
          else sanitizeBy spelling before ++ "_" ++ sanitizeBy spelling behind := by
  refine ⟨fun text => ?_, fun text => ?_, sanitizeBy_sanitizeBy own,
    fun before behind _ ascii foreign => sanitizeBy_push_append own ascii foreign before behind⟩
  · rw [toList_sanitizeBy, identifierOfAscii_eq_intercalate, alphanumericRuns_eq_splitOnP]
  · rw [toList_sanitizeBy]
    refine ⟨fun c member => ?_, underscores_of_identifierOfAscii _⟩
    by_cases underscore : c = '_'
    · exact .inr underscore
    · exact .inl (isAlphanum_of_mem_identifierOfAscii member underscore)

/-- The library's spelling leaves ASCII as it is; with it a German street and a parameter in braces
are sanitized one by one. -/
theorem street_sanitized_runs :
    (∀ c : Char, c.toNat < 128 → asciiSpelling c = [c]) ∧
    sanitize "__Große Straße" = "Grosse_Strasse" ∧
    sanitize "\x7bpostId\x7d" = "postId" ∧
    sanitize ("__Große Straße".push '/' ++ "\x7bpostId\x7d") = "Grosse_Strasse_postId" ∧
    sanitize (sanitize "__Große Straße") = "Grosse_Strasse" := by
  have own : ∀ c : Char, c.toNat < 128 → asciiSpelling c = [c] := by
    intro c ascii
    rw [asciiSpelling, if_pos ascii]
  have street : sanitize "__Große Straße" = "Grosse_Strasse" := by decide +kernel
  have parameter : sanitize "\x7bpostId\x7d" = "postId" := by decide +kernel
  obtain ⟨_, _, again, divided⟩ := sanitized_runs own
  have joined : sanitize ("__Große Straße".push '/' ++ "\x7bpostId\x7d") =
      if sanitize "__Große Straße" = "" then sanitize "\x7bpostId\x7d"
      else if sanitize "\x7bpostId\x7d" = "" then sanitize "__Große Straße"
      else sanitize "__Große Straße" ++ "_" ++ sanitize "\x7bpostId\x7d" :=
    divided "__Große Straße" "\x7bpostId\x7d" '/' (by decide) (by decide)
  rw [street, parameter] at joined
  exact ⟨own, street, parameter, joined, (again "__Große Straße").trans street⟩

end ApiWiring.Text
