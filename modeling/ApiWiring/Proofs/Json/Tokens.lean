import ApiWiring.Json.Canonical
import ApiWiring.Json.Reader

/-!
# Strings, integers and keys at the front of a text

A string that is written with its quotes is read up to its closing quote, whatever comes after it,
so the string and the rest can be told from the whole. An integer is told from what comes after it
by its digits, if that does not begin with another digit. And the UTF-16 code units of a key, by
which keys are ordered, tell its characters one by one.
-/
namespace ApiWiring.Json

/-! ## Strings -/

/-- Control characters are read from their four hexadecimal digits. -/
theorem codeUnit?_hexDigit : ∀ unit < 0x20,
    codeUnit? '0' '0' (hexDigit (unit / 16)) (hexDigit unit) = some unit := by
  decide

/-- How a character is written in a string: with a letter after a backslash, with its code after
one, or as it is. -/
inductive Escaped (c : Char) : Prop where
  /-- With a letter. -/
  | letter (letter : Char) (written : escape c = ['\\', letter]) (stands : escaped? letter = some c)
    (other : letter ≠ 'u')
  /-- With its code. -/
  | code (control : c.toNat < 0x20) (written : escape c =
      ['\\', 'u', '0', '0', hexDigit (c.toNat / 16), hexDigit c.toNat])
  /-- As it is. -/
  | plain (written : escape c = [c]) (quote : c ≠ '"') (slash : c ≠ '\\')
    (printed : ¬c.toNat < 0x20)

/-- Every character is written in one of these ways. -/
theorem escaped (c : Char) : Escaped c := by
  by_cases special : c ∈ ['"', '\\', '\x08', '\x0c', '\n', '\r', '\t']
  · simp only [List.mem_cons, List.not_mem_nil, or_false] at special
    rcases special with rfl | rfl | rfl | rfl | rfl | rfl | rfl <;>
      exact .letter _ rfl rfl (by decide)
  · simp only [List.mem_cons, List.not_mem_nil, or_false, not_or] at special
    obtain ⟨quote, slash, back, feed, line, carriage, tab⟩ := special
    by_cases control : c.toNat < 0x20
    · refine .code control ?_
      simp [escape, quote, slash, back, feed, line, carriage, tab, control]
    · refine .plain ?_ quote slash control
      simp [escape, quote, slash, back, feed, line, carriage, tab, control]

/-- A character in a string is read as it was written. -/
theorem readUnits_escape (done : List Nat) (c : Char) (rest : List Char) :
    readUnits done (escape c ++ rest) = readUnits (c.toNat :: done) rest := by
  cases escaped c with
  | letter letter written stands other =>
    rw [written, List.cons_append, List.singleton_append, readUnits, stands]
    · rfl
    · exact fun _ _ _ _ _ same _ => other same
  | code control written =>
    have read := codeUnit?_hexDigit c.toNat control
    rw [written]
    show readUnits done ('\\' :: 'u' :: '0' :: '0' :: _ :: _ :: rest) = _
    rw [readUnits, read]
    rfl
  | plain written quote slash printed =>
    rw [written, List.singleton_append, readUnits]
    · simp [printed, slash]
    · exact quote
    · exact fun _ _ _ _ _ same _ => slash same
    · exact fun _ _ same _ => slash same

/-- The characters of a string are read up to the closing quote. -/
theorem readUnits_flatMap_escape (done : List Nat) (characters rest : List Char) :
    readUnits done (characters.flatMap escape ++ '"' :: rest) =
      some ((characters.map Char.toNat).reverse ++ done, rest) := by
  induction characters generalizing done with
  | nil => rfl
  | cons c others ih =>
    rw [List.flatMap_cons, List.append_assoc, readUnits_escape, ih, List.map_cons,
      List.reverse_cons, List.append_assoc, List.singleton_append]

/-- A character is no surrogate. -/
theorem not_surrogate (c : Char) :
    isLowSurrogate c.toNat = false ∧ isHighSurrogate c.toNat = false := by
  have valid : c.toNat < 0xD800 ∨ 0xDFFF < c.toNat ∧ c.toNat < 0x110000 := c.valid
  simp only [isLowSurrogate, isHighSurrogate, Bool.and_eq_false_iff, decide_eq_false_iff_not]
  omega

/-- The code units of characters stand for these characters, in reverse order. -/
theorem characters?_map (done characters : List Char) :
    characters? done (characters.map Char.toNat) = some (characters.reverse ++ done) := by
  induction characters generalizing done with
  | nil => rfl
  | cons c others ih =>
    obtain ⟨low, high⟩ := not_surrogate c
    rw [List.map_cons, characters?.eq_def]
    simp only [low, high, Char.ofNat_toNat, Bool.false_eq_true, if_false, ih, List.reverse_cons,
      List.append_assoc, List.singleton_append]

/-- A string that is written reads back, and what comes after it is left. -/
theorem readString_escaped (text : String) (rest : List Char) :
    readString (text.toList.flatMap escape ++ '"' :: rest) = some (some text, rest) := by
  rw [readString, readUnits_flatMap_escape]
  simp [← List.map_reverse, characters?_map]

/-- A string that is written can be told from what comes after it. -/
theorem quoted_append_inj {left right : String} {u v : List Char}
    (same : quoted left ++ u = quoted right ++ v) : left = right ∧ u = v := by
  simp only [quoted, List.cons_append, List.append_assoc, List.cons.injEq, true_and,
    List.nil_append] at same
  have read := readString_escaped left u
  rw [same, readString_escaped, Option.some.injEq, Prod.mk.injEq, Option.some.injEq] at read
  exact ⟨read.1.symm, read.2.symm⟩

/-! ## Integers -/

/-- Whether a text does not begin with a digit. -/
def NoDigitFirst (text : List Char) : Prop := ∀ c ∈ text.head?, c.isDigit = false

/-- The digits of a natural are digits. -/
theorem isDigit_of_mem_digits (n : Nat) : ∀ c ∈ Decimal.digits n, c.isDigit = true :=
  fun _ listed => Nat.isDigit_of_mem_toDigits (by decide) (by decide) listed

/-- Digits can be told from what comes after them. -/
theorem digits_append_inj {left right : Nat} {u v : List Char} (noDigit : NoDigitFirst u)
    (noOther : NoDigitFirst v) (same : Decimal.digits left ++ u = Decimal.digits right ++ v) :
    left = right ∧ u = v := by
  have taken : ∀ {n : Nat} {rest : List Char}, NoDigitFirst rest →
      (Decimal.digits n ++ rest).takeWhile Char.isDigit = Decimal.digits n := by
    intro n rest ends
    have none : rest.takeWhile Char.isDigit = [] := by
      cases rest with
      | nil => rfl
      | cons c others => rw [List.takeWhile_cons, ends c rfl]; rfl
    rw [List.takeWhile_append_of_pos (isDigit_of_mem_digits n), none, List.append_nil]
  have digits : Decimal.digits left = Decimal.digits right := by
    rw [← taken noDigit, same, taken noOther]
  have value : ∀ n : Nat, Nat.ofDigitChars 10 (Decimal.digits n) 0 = n := fun n =>
    Nat.ofDigitChars_toDigits (by decide) (by decide)
  refine ⟨?_, ?_⟩
  · rw [← value left, digits, value]
  · rwa [digits, List.append_cancel_left_eq] at same

/-- The text of a natural begins with a digit. -/
theorem digits_eq_cons (n : Nat) :
    ∃ c rest, Decimal.digits n = c :: rest ∧ c.isDigit = true := by
  have some : Decimal.digits n ≠ [] := Nat.toDigits_ne_nil
  obtain ⟨c, rest, written⟩ := List.exists_cons_of_ne_nil some
  have first : c ∈ Decimal.digits n := by
    rw [written]
    exact .head _
  exact ⟨c, rest, written, isDigit_of_mem_digits n c first⟩

/-- An integer can be told from what comes after it. -/
theorem integerText_append_inj {left right : Int} {u v : List Char} (noDigit : NoDigitFirst u)
    (noOther : NoDigitFirst v) (same : integerText left ++ u = integerText right ++ v) :
    left = right ∧ u = v := by
  have sign : ∀ {n : Nat} {rest other : List Char}, '-' :: other ≠ Decimal.digits n ++ rest := by
    intro n rest other equal
    obtain ⟨c, digits, written, digit⟩ := digits_eq_cons n
    rw [written, List.cons_append] at equal
    rw [← (List.cons.inj equal).1] at digit
    exact absurd digit (by decide)
  unfold integerText at same
  by_cases negative : left < 0 <;> by_cases other : right < 0
  · rw [if_pos negative, if_pos other] at same
    obtain ⟨absolute, rest⟩ := digits_append_inj noDigit noOther (List.cons.inj same).2
    exact ⟨by omega, rest⟩
  · rw [if_pos negative, if_neg other] at same
    exact absurd same sign
  · rw [if_neg negative, if_pos other] at same
    exact absurd same.symm sign
  · rw [if_neg negative, if_neg other] at same
    obtain ⟨absolute, rest⟩ := digits_append_inj noDigit noOther same
    exact ⟨by omega, rest⟩

/-! ## Keys -/

/-- The code units of a character tell it from what comes after it. -/
theorem utf16Units_append_inj {left right : Char} {u v : List Nat}
    (same : utf16Units left ++ u = utf16Units right ++ v) : left = right ∧ u = v := by
  have validLeft : left.toNat < 0xD800 ∨ 0xDFFF < left.toNat ∧ left.toNat < 0x110000 := left.valid
  have validRight : right.toNat < 0xD800 ∨ 0xDFFF < right.toNat ∧ right.toNat < 0x110000 :=
    right.valid
  have equal : left.toNat = right.toNat → left = right := fun codes => by
    rw [← Char.ofNat_toNat left, codes, Char.ofNat_toNat]
  unfold utf16Units at same
  by_cases short : left.toNat < 0x10000 <;> by_cases other : right.toNat < 0x10000 <;>
    simp only [short, other, if_true, if_false, List.cons_append, List.nil_append,
      List.cons.injEq] at same
  · exact ⟨equal same.1, same.2⟩
  · omega
  · omega
  · exact ⟨equal (by omega), same.2.2⟩

/-- Keys with the same code units are the same. -/
theorem keyUnits_inj {left right : String} (same : keyUnits left = keyUnits right) :
    left = right := by
  have general : ∀ xs ys : List Char, xs.flatMap utf16Units = ys.flatMap utf16Units → xs = ys := by
    have nonempty : ∀ (c : Char) (rest : List Nat), utf16Units c ++ rest ≠ [] := by
      intro c rest
      unfold utf16Units
      split <;> exact nofun
    intro xs
    induction xs with
    | nil =>
      intro ys equal
      cases ys with
      | nil => rfl
      | cons c others => exact absurd equal.symm (nonempty c _)
    | cons c rest ih =>
      intro ys equal
      cases ys with
      | nil => exact absurd equal (nonempty c _)
      | cons d others =>
        rw [List.flatMap_cons, List.flatMap_cons] at equal
        obtain ⟨rfl, later⟩ := utf16Units_append_inj equal
        rw [ih others later]
  exact String.toList_inj.mp (general _ _ same)

end ApiWiring.Json
