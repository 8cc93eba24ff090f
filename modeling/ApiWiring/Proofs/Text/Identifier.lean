import ApiWiring.Proofs.Text.LetterCase
import ApiWiring.Proofs.Text.Segments
import ApiWiring.Text.Identifier
import Mathlib.Data.List.DropRight

/-!
# Identifiers and their words

The three steps that make an identifier come to one: squeezing twice is squeezing once every run of
characters other than letters and digits, and what is left between the ends are the runs of letters
and digits, joined by single underscores (`identifierOfAscii_eq_intercalate`). So cutting an
identifier at its underscores gives back the runs of the text it was made of
(`pieces_identifierOfAscii`), and two texts become the same identifier exactly when they have the
same runs.
-/
namespace ApiWiring.Text

variable {c : Char} {text : List Char}

/-- A letter or a digit is no underscore. -/
theorem ne_underscore_of_isAlphanum (alphanumeric : c.isAlphanum = true) : c ≠ '_' := by
  rintro rfl
  exact absurd alphanumeric (by decide)

/-- Letters and digits are ASCII. -/
theorem isAscii_of_isAlphanum (alphanumeric : c.isAlphanum = true) : c.toNat < 128 := by
  have bounded : ∀ last : Char, c.val ≤ last.val → last.toNat < 128 → c.toNat < 128 :=
    fun last below ascii => Nat.lt_of_le_of_lt (UInt32.le_iff_toNat_le.mp below) ascii
  have classes : (c.isUpper || c.isLower || c.isDigit) = true := alphanumeric
  rw [Bool.or_eq_true, Bool.or_eq_true] at classes
  obtain (upper | lower) | digit := classes
  · exact bounded 'Z' (of_decide_eq_true upper).2 (by decide)
  · exact bounded 'z' (of_decide_eq_true (Bool.and_eq_true_iff.mp lower).2) (by decide)
  · exact bounded '9' (of_decide_eq_true (Bool.and_eq_true_iff.mp digit).2) (by decide)

/-! ## Squeezing -/

/-- Text inside a run of foreign characters loses them. -/
theorem squeezeFrom_cons_of_foreign {p : Char → Bool} (foreign : p c = true) (inside : Bool)
    (rest : List Char) :
    squeezeFrom '_' p inside (c :: rest) =
      (if inside then [] else ['_']) ++ squeezeFrom '_' p true rest := by
  rw [squeezeFrom, if_pos foreign]
  cases inside <;> rfl

/-- Characters that are not foreign stay. -/
theorem squeezeFrom_cons_of_own {p : Char → Bool} (own : p c = false) (inside : Bool)
    (rest : List Char) :
    squeezeFrom '_' p inside (c :: rest) = c :: squeezeFrom '_' p false rest := by
  rw [squeezeFrom, if_neg (by simp [own])]

/-- Squeezing the foreign characters and then the underscores is squeezing both at once. Where the
inner pass is inside a run it has just written an underscore, so the outer is inside a run too. -/
theorem squeezeFrom_squeezeFrom {inner outer : Bool} (within : inner = true → outer = true) :
    squeezeFrom '_' (· == '_') outer (squeezeFrom '_' (!isIdentifierCharacter ·) inner text) =
      squeezeFrom '_' (!·.isAlphanum) outer text := by
  induction text generalizing inner outer with
  | nil => rfl
  | cons c rest ih =>
    by_cases alphanumeric : c.isAlphanum = true
    · have different := ne_underscore_of_isAlphanum alphanumeric
      rw [squeezeFrom_cons_of_own (by simp [isIdentifierCharacter, alphanumeric]),
        squeezeFrom_cons_of_own (by simpa using different),
        squeezeFrom_cons_of_own (by simp [alphanumeric]), ih (by simp)]
    · have separates : (!c.isAlphanum) = true := by simpa using alphanumeric
      by_cases underscore : c = '_'
      · rw [squeezeFrom_cons_of_own (by simp [isIdentifierCharacter, underscore]),
          squeezeFrom_cons_of_foreign (by simpa using underscore),
          squeezeFrom_cons_of_foreign separates, ih (by simp)]
      · rw [squeezeFrom_cons_of_foreign (by simp [isIdentifierCharacter, underscore, alphanumeric]),
          squeezeFrom_cons_of_foreign separates]
        cases inner with
        | false =>
          have written : squeezeFrom '_' (· == '_') outer
              ('_' :: squeezeFrom '_' (!isIdentifierCharacter ·) true rest) =
                (if outer then [] else ['_']) ++ squeezeFrom '_' (· == '_') true
                  (squeezeFrom '_' (!isIdentifierCharacter ·) true rest) :=
            squeezeFrom_cons_of_foreign rfl outer _
          exact written.trans (by rw [ih (by simp)])
        | true =>
          rw [within rfl]
          exact ih (by simp)

/-- After the underscores at its front a squeezed text is as inside a run. -/
theorem dropWhile_squeezeFrom (inside : Bool) (text : List Char) :
    (squeezeFrom '_' (!·.isAlphanum) inside text).dropWhile (· == '_') =
      squeezeFrom '_' (!·.isAlphanum) true text := by
  induction text generalizing inside with
  | nil => rfl
  | cons c rest ih =>
    by_cases alphanumeric : c.isAlphanum = true
    · have different := ne_underscore_of_isAlphanum alphanumeric
      have own : (!c.isAlphanum) = false := by simp [alphanumeric]
      rw [squeezeFrom_cons_of_own own, squeezeFrom_cons_of_own own, List.dropWhile_cons_of_neg]
      simpa using different
    · have separates : (!c.isAlphanum) = true := by simpa using alphanumeric
      rw [squeezeFrom_cons_of_foreign separates, squeezeFrom_cons_of_foreign separates]
      cases inside with
      | false => exact ih true
      | true => exact ih true

/-! ## Runs -/

/-- Whether a text is a run of letters and digits. -/
def IsRun (word : List Char) : Prop := word ≠ [] ∧ ∀ c ∈ word, c.isAlphanum = true

/-- Runs do not contain underscores. -/
theorem IsRun.apart {word : List Char} (run : IsRun word) : '_' ∉ word :=
  fun member => ne_underscore_of_isAlphanum (run.2 _ member) rfl

/-- A character other than letters and digits belongs to no run. -/
theorem alphanumericRuns_cons_of_foreign (foreign : c.isAlphanum = false) (rest : List Char) :
    alphanumericRuns (c :: rest) = alphanumericRuns rest := by
  rw [alphanumericRuns.eq_def]
  simp [foreign]

/-- A letter or a digit before the end or before another character is a run of its own; before a
letter or a digit it belongs to the first run. -/
theorem alphanumericRuns_cons_of_alphanumeric (alphanumeric : c.isAlphanum = true)
    (rest : List Char) :
    (alphanumericRuns (c :: rest) = [c] :: alphanumericRuns rest ∧
        ∀ d ∈ rest.head?, d.isAlphanum = false) ∨
      ∃ run others, alphanumericRuns rest = run :: others ∧
        alphanumericRuns (c :: rest) = (c :: run) :: others ∧
          ∃ d ∈ rest.head?, d.isAlphanum = true := by
  induction rest generalizing c with
  | nil => exact .inl ⟨by simp [alphanumericRuns, alphanumeric], by simp⟩
  | cons d later ih =>
    by_cases next : d.isAlphanum = true
    · obtain ⟨run, others, found⟩ :
          ∃ run others, alphanumericRuns (d :: later) = run :: others := by
        rcases ih next with ⟨alone, _⟩ | ⟨run, others, _, joined, _⟩
        · exact ⟨_, _, alone⟩
        · exact ⟨_, _, joined⟩
      refine .inr ⟨run, others, found, ?_, d, rfl, next⟩
      rw [alphanumericRuns.eq_def]
      simp [alphanumeric, found, next]
    · refine .inl ⟨?_, by simpa using next⟩
      rw [alphanumericRuns.eq_def]
      cases found : alphanumericRuns (d :: later) with
      | nil => simp [alphanumeric, found]
      | cons run others => simp [alphanumeric, found, next]

/-- The runs of a text are runs. -/
theorem isRun_of_mem_alphanumericRuns {word : List Char} (member : word ∈ alphanumericRuns text) :
    IsRun word := by
  induction text generalizing word with
  | nil => exact absurd member List.not_mem_nil
  | cons c rest ih =>
    by_cases alphanumeric : c.isAlphanum = true
    · rcases alphanumericRuns_cons_of_alphanumeric alphanumeric rest with
        ⟨alone, _⟩ | ⟨run, others, found, joined, _⟩
      · rw [alone] at member
        rcases List.mem_cons.mp member with rfl | later
        · exact ⟨by simp, by simpa using alphanumeric⟩
        · exact ih later
      · rw [joined] at member
        rcases List.mem_cons.mp member with rfl | later
        · have continued := ih (found ▸ List.mem_cons_self)
          exact ⟨by simp, List.forall_mem_cons.mpr ⟨alphanumeric, continued.2⟩⟩
        · exact ih (found ▸ List.mem_cons_of_mem _ later)
    · rw [alphanumericRuns_cons_of_foreign (by simpa using alphanumeric)] at member
      exact ih member

/-- Joined runs end in a letter or a digit. -/
theorem exists_getLast?_intercalate {words : List (List Char)} (each : ∀ word ∈ words, IsRun word)
    (present : words ≠ []) :
    ∃ last, (['_'].intercalate words).getLast? = some last ∧ last.isAlphanum = true := by
  induction words with
  | nil => exact absurd rfl present
  | cons word rest ih =>
    obtain ⟨here, later⟩ := List.forall_mem_cons.mp each
    cases rest with
    | nil =>
      have ends := List.getLast?_eq_some_getLast here.1
      rw [List.intercalate_singleton]
      exact ⟨word.getLast here.1, ends, here.2 _ (List.getLast_mem here.1)⟩
    | cons next others =>
      obtain ⟨last, ends, alphanumeric⟩ := ih later (by simp)
      refine ⟨last, ?_, alphanumeric⟩
      rw [List.intercalate_cons_cons, List.getLast?_append, List.getLast?_append, ends]
      rfl

/-! ## Squeezed text -/

/-- Whether a text consists of joined runs, with one more underscore behind them perhaps. -/
def Joins (text : List Char) (runs : List (List Char)) : Prop :=
  text = ['_'].intercalate runs ∨ text = ['_'].intercalate runs ++ ['_'] ∧ runs ≠ []

/-- A character before a text that joins runs belongs to the first of them. -/
theorem Joins.cons {run : List Char} {others : List (List Char)}
    (joins : Joins text (run :: others)) :
    Joins (c :: text) ((c :: run) :: others) := by
  have longer : ['_'].intercalate ((c :: run) :: others) =
      c :: ['_'].intercalate (run :: others) := by
    cases others with
    | nil => simp
    | cons next later => simp [List.intercalate_cons_cons]
  rcases joins with rfl | ⟨rfl, _⟩
  · exact .inl longer.symm
  · exact .inr ⟨by rw [longer, List.cons_append], by simp⟩

/-- A character and an underscore before a text that joins runs are one more run. -/
theorem Joins.cons_underscore {runs : List (List Char)} (joins : Joins text runs) :
    Joins (c :: '_' :: text) ([c] :: runs) := by
  cases runs with
  | nil =>
    have none : text = [] := joins.resolve_right fun trailing => trailing.2 rfl
    exact .inr ⟨by rw [none]; rfl, by simp⟩
  | cons run others =>
    rcases joins with rfl | ⟨rfl, _⟩
    · exact .inl (by simp [List.intercalate_cons_cons])
    · exact .inr ⟨by simp [List.intercalate_cons_cons], by simp⟩

/-- Inside a run, a squeezed text joins the runs of the text. -/
theorem joins_squeezeFrom (text : List Char) :
    Joins (squeezeFrom '_' (!·.isAlphanum) true text) (alphanumericRuns text) := by
  induction text with
  | nil => exact .inl rfl
  | cons c rest ih =>
    by_cases alphanumeric : c.isAlphanum = true
    · rw [squeezeFrom_cons_of_own (by simp [alphanumeric])]
      rcases alphanumericRuns_cons_of_alphanumeric alphanumeric rest with
        ⟨alone, stops⟩ | ⟨run, others, found, joined, d, starts, next⟩
      · rw [alone]
        cases rest with
        | nil => exact .inl rfl
        | cons d later =>
          have separates : (!d.isAlphanum) = true := by simpa using stops d rfl
          rw [squeezeFrom_cons_of_foreign separates] at ih ⊢
          exact ih.cons_underscore
      · rw [joined]
        rw [found] at ih
        cases rest with
        | nil => cases starts
        | cons other later =>
          obtain rfl : other = d := by simpa using starts
          have own : (!other.isAlphanum) = false := by simp [next]
          rw [squeezeFrom_cons_of_own own] at ih ⊢
          exact ih.cons
    · have separates : (!c.isAlphanum) = true := by simpa using alphanumeric
      rw [squeezeFrom_cons_of_foreign separates,
        alphanumericRuns_cons_of_foreign (by simpa using alphanumeric)]
      exact ih

/-- An identifier consists of the runs of letters and digits, joined by single underscores. -/
theorem identifierOfAscii_eq_intercalate (text : List Char) :
    identifierOfAscii text = ['_'].intercalate (alphanumericRuns text) := by
  let joined := ['_'].intercalate (alphanumericRuns text)
  have squeezedOnce : squeeze '_' (· == '_') (squeeze '_' (!isIdentifierCharacter ·) text) =
      squeezeFrom '_' (!·.isAlphanum) false text := squeezeFrom_squeezeFrom (by simp)
  have trimmed : joined.rdropWhile (· == '_') = joined := by
    by_cases present : alphanumericRuns text = []
    · simp [joined, present]
    · obtain ⟨last, ends, alphanumeric⟩ := exists_getLast?_intercalate
        (fun word member => isRun_of_mem_alphanumericRuns member) present
      rw [List.rdropWhile_eq_self_iff]
      intro full
      rw [List.getLast?_eq_some_getLast full, Option.some.injEq] at ends
      have different := ne_underscore_of_isAlphanum alphanumeric
      rw [ends]
      simpa using different
  have whole : identifierOfAscii text =
      (squeezeFrom '_' (!·.isAlphanum) true text).rdropWhile (· == '_') := by
    rw [identifierOfAscii, squeezedOnce, trim, dropWhile_squeezeFrom, List.rdropWhile]
  rcases joins_squeezeFrom text with exactly | ⟨trailing, _⟩
  · rw [whole, exactly]
    exact trimmed
  · rw [whole, trailing, List.rdropWhile_concat_pos _ _ _ rfl]
    exact trimmed

/-! ## Words of identifiers -/

/-- The words of an identifier made of a text: its runs of letters and digits, and one empty word
where there are none. -/
def identifierWords (text : List Char) : List (List Char) :=
  match alphanumericRuns text with
  | [] => [[]]
  | run :: others => run :: others

/-- Cutting an identifier at its underscores gives its words. -/
theorem pieces_identifierOfAscii (text : List Char) :
    pieces '_' (identifierOfAscii text) = identifierWords text := by
  rw [identifierOfAscii_eq_intercalate, identifierWords]
  cases found : alphanumericRuns text with
  | nil => rfl
  | cons run others =>
    have apart : ∀ word ∈ run :: others, '_' ∉ word := by
      intro word member
      rw [← found] at member
      exact (isRun_of_mem_alphanumericRuns member).apart
    exact pieces_intercalate apart (by simp)

/-- An identifier has letters, digits and underscores only. -/
theorem isAlphanum_of_mem_identifierOfAscii (member : c ∈ identifierOfAscii text)
    (other : c ≠ '_') :
    c.isAlphanum = true := by
  have inside : c ∈ (pieces '_' (identifierOfAscii text)).flatten := by
    rw [flatten_pieces]
    exact List.mem_filter.mpr ⟨member, by simpa using other⟩
  obtain ⟨word, listed, inWord⟩ := List.mem_flatten.mp inside
  rw [pieces_identifierOfAscii, identifierWords] at listed
  split at listed
  · rw [List.mem_singleton.mp listed] at inWord
    exact absurd inWord List.not_mem_nil
  · rename_i run others found
    rw [← found] at listed
    exact (isRun_of_mem_alphanumericRuns listed).2 c inWord

/-- The characters of an identifier are ASCII. -/
theorem isAscii_of_mem_identifierOfAscii (member : c ∈ identifierOfAscii text) :
    c.toNat < 128 := by
  by_cases underscore : c = '_'
  · rw [underscore]
    decide
  · exact isAscii_of_isAlphanum (isAlphanum_of_mem_identifierOfAscii member underscore)

/-- Cutting an identifier in small letters gives its words in small letters. -/
theorem pieces_lowercase_identifierOfAscii (text : List Char) :
    pieces '_' ((identifierOfAscii text).flatMap lowercase) =
      (identifierWords text).map (List.map Char.toLower) := by
  have small : (identifierOfAscii text).flatMap lowercase =
      (identifierOfAscii text).map Char.toLower := by
    rw [List.map_eq_flatMap]
    exact List.flatMap_congr fun c member =>
      lowercase_of_ascii (isAscii_of_mem_identifierOfAscii member)
  rw [small, pieces_map (toLower_eq_iff (by decide)), pieces_identifierOfAscii]

end ApiWiring.Text
