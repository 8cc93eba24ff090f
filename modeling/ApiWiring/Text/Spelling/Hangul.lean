/-!
# Spellings of Hangul syllables

A Hangul syllable is an initial consonant, a vowel and a final consonant, which may be missing. The
syllables follow each other with the finals changing fastest and the initials slowest, so a code
point tells the three parts (`hangulSyllable?`). A syllable is spelled with a capital letter.
-/
namespace ApiWiring.Text.Spelling

/-- Spellings of the initial consonants. -/
def hangulInitials : List String := [
  "g", "kk", "n", "d", "tt", "r", "m", "b", "pp", "s", "ss", "", "j", "jj", "ch", "k", "t", "p",
  "h"]

/-- Spellings of the vowels. -/
def hangulVowels : List String := [
  "a", "ae", "ya", "yae", "eo", "e", "yeo", "ye", "o", "wa", "wae", "oe", "yo", "u", "wo", "we",
  "wi", "yu", "eu", "ui", "i"]

/-- Spellings of the final consonants, the missing one first. -/
def hangulFinals : List String := [
  "", "g", "kk", "gs", "n", "nj", "nh", "d", "l", "lg", "lm", "lb", "ls", "lt", "lp", "lh", "m",
  "b", "bs", "s", "ss", "ng", "j", "ch", "k", "t", "p", "h"]

/-- The code point of the first syllable. -/
def firstHangulSyllable : Nat := 0xAC00

/-- How many syllables have a given initial consonant. -/
def syllablesOfInitial : Nat := hangulVowels.length * hangulFinals.length

/-- A text with its first letter capital. -/
def capitalized : List Char → List Char
  | [] => []
  | c :: rest => c.toUpper :: rest

/-- The spelling of a Hangul syllable. -/
def hangulSyllable? (code : Nat) : Option (List Char) :=
  if code < firstHangulSyllable then none
  else
    let place := code - firstHangulSyllable
    (hangulInitials[place / syllablesOfInitial]?).map fun initial =>
      let vowel := hangulVowels.getD (place / hangulFinals.length % hangulVowels.length) ""
      let final := hangulFinals.getD (place % hangulFinals.length) ""
      capitalized (initial.toList ++ vowel.toList ++ final.toList)

end ApiWiring.Text.Spelling
