import ApiWiring.Text.Spelling.Ancient
import ApiWiring.Text.Spelling.EastAsian
import ApiWiring.Text.Spelling.Emoji
import ApiWiring.Text.Spelling.European
import ApiWiring.Text.Spelling.Hangul
import ApiWiring.Text.Spelling.Ideograph
import ApiWiring.Text.Spelling.Indic
import ApiWiring.Text.Spelling.Inland
import ApiWiring.Text.Spelling.Latin
import ApiWiring.Text.Spelling.Semitic
import ApiWiring.Text.Spelling.Syllabic
import ApiWiring.Text.Spelling.Symbols

/-!
# Transliteration to ASCII

Every character is spelled in ASCII on its own: an ASCII character stands for itself, another
character for the spelling that its script gives it, and a character without a spelling for
nothing. So the spelling of a text is the concatenation of the spellings of its characters
(`transliterate_append`), it is ASCII throughout (`isAscii_of_mem_transliterate`), and a text that
is ASCII already is its own spelling (`transliterate_of_ascii`).
-/
namespace ApiWiring.Text

open Spelling

/-- Whether a character is one of the 128 of ASCII. -/
def isAscii (c : Char) : Bool := c.toNat < 128

/-- Blanks of other widths and the marks that end a line or a paragraph; each is spelled as a
blank. -/
def isBlankSign (code : Nat) : Bool :=
  [0xA0, 0x1680, 0x2028, 0x2029, 0x202F, 0x205F, 0x2800, 0x3000].contains code ||
    0x2000 ≤ code && code ≤ 0x200A

/-- Characters that stand for several words. -/
def phrases : List (Nat × String) := [(0xFDFA, "sly llh 'lyh wslm"), (0xFDFB, "jl jllh")]

/-- The tables of the scripts; no character is spelled in two of them. -/
def scripts : List (List Stretch) :=
  [latin, european, semitic, indic, inland, syllabic, yi, eastAsian, symbols, ancient]

/-- The name of an emoji between colons. -/
def emoji? (code : Nat) : Option (List Char) :=
  (spelledIn emojiNames code).map fun name => ':' :: name ++ [':']

/-- The spelling of a character beyond ASCII, if it has one. -/
def spelling? (c : Char) : Option (List Char) :=
  if isBlankSign c.toNat then some [' ']
  else
    (phrases.lookup c.toNat).map String.toList <|> hangulSyllable? c.toNat <|>
      scripts.findSome? (spelledIn · c.toNat) <|> emoji? c.toNat <|> ideograph? c

/-- The ASCII spelling of one character; nothing beyond ASCII comes out of a table. -/
def asciiSpelling (c : Char) : List Char :=
  if c.toNat < 128 then [c] else ((spelling? c).getD []).filter isAscii

/-- The ASCII spelling of a text, character by character. -/
def transliterate (text : List Char) : List Char := text.flatMap asciiSpelling

/-- Transliteration works character by character. -/
theorem transliterate_append (left right : List Char) :
    transliterate (left ++ right) = transliterate left ++ transliterate right := by
  simp [transliterate]

/-- The spelling of a character is ASCII. -/
theorem isAscii_of_mem_asciiSpelling {c d : Char} (member : d ∈ asciiSpelling c) :
    d.toNat < 128 := by
  unfold asciiSpelling at member
  split at member
  · simp_all
  · simpa [isAscii] using (List.mem_filter.mp member).2

/-- The spelling of a text is ASCII. -/
theorem isAscii_of_mem_transliterate {text : List Char} {d : Char}
    (member : d ∈ transliterate text) : d.toNat < 128 := by
  obtain ⟨c, -, spelled⟩ := List.mem_flatMap.mp member
  exact isAscii_of_mem_asciiSpelling spelled

/-- A text that is ASCII already is left as it is. -/
theorem transliterate_of_ascii {text : List Char} (ascii : ∀ c ∈ text, c.toNat < 128) :
    transliterate text = text := by
  induction text with
  | nil => rfl
  | cons c rest ih =>
    have head : c.toNat < 128 := ascii c (by simp)
    have tail := ih fun d member => ascii d (by simp [member])
    simp only [transliterate] at tail ⊢
    simp [asciiSpelling, head, tail]

end ApiWiring.Text
