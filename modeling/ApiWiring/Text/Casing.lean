import ApiWiring.Text.LetterCase

/-!
# Casing styles

A name is put into a casing style in one pass from left to right. Blanks, hyphens and underscores
separate words in every style; a word also begins at a capital letter right after a small one,
and nowhere else, so a run of capitals is one word.
-/
namespace ApiWiring.Text

/-- Whether a character stands between words. -/
def isWordSeparator (c : Char) : Bool := c == ' ' || c == '-' || c == '_'

/-- The rest of a name in small letters with `mark` between its words, after the character
`previous`. -/
def markWordsAfter (mark : Char) (previous : Option Char) : List Char → List Char
  | [] => []
  | c :: rest =>
    let here :=
      if isWordSeparator c then [mark]
      else if previous.any isLowercase && isUppercase c then mark :: lowercase c
      else lowercase c
    here ++ markWordsAfter mark (some c) rest

/-- A name in small letters, its words separated by `mark`. -/
def markWords (mark : Char) (name : List Char) : List Char := markWordsAfter mark none name

/-- The rest of a name without its separators, every word capitalised, after the character
`previous`; `capitalise` says that the next character opens a word. -/
def joinWordsAfter (previous : Option Char) (capitalise : Bool) : List Char → List Char
  | [] => []
  | c :: rest =>
    if capitalise then uppercase c ++ joinWordsAfter (some c) false rest
    else if isWordSeparator c then joinWordsAfter (some c) true rest
    else if previous.any isLowercase then c :: joinWordsAfter (some c) false rest
    else lowercase c ++ joinWordsAfter (some c) false rest

/-- A name without separators, its words after the first capitalised. -/
def camelCase (name : List Char) : List Char := joinWordsAfter none false name

/-- A name without separators, all its words capitalised. -/
def pascalCase (name : List Char) : List Char := joinWordsAfter none true name

/-- A name in small letters, its words separated by underscores. -/
def snakeCase (name : List Char) : List Char := markWords '_' name

/-- A name in small letters, its words separated by hyphens. -/
def kebabCase (name : List Char) : List Char := markWords '-' name

end ApiWiring.Text
