import ApiWiring.Text.Transliteration

/-!
# Identifiers

A text becomes an identifier in three steps after its transliteration to ASCII: every run of
characters other than letters, digits and underscores becomes one underscore, every run of
underscores becomes one underscore, and the underscores at the two ends go. What is left are the
runs of letters and digits (`alphanumericRuns`), joined by single underscores.
-/
namespace ApiWiring.Text

/-- Puts `mark` in place of every run of characters with the property `p`; `inside` says that the
text continues such a run. -/
def squeezeFrom (mark : Char) (p : Char → Bool) (inside : Bool) : List Char → List Char
  | [] => []
  | c :: rest =>
    if p c then
      if inside then squeezeFrom mark p true rest else mark :: squeezeFrom mark p true rest
    else c :: squeezeFrom mark p false rest

/-- Puts `mark` in place of every maximal run of characters with the property `p`. -/
def squeeze (mark : Char) (p : Char → Bool) (text : List Char) : List Char :=
  squeezeFrom mark p false text

/-- Drops the characters equal to `mark` from both ends. -/
def trim (mark : Char) (text : List Char) : List Char :=
  ((text.dropWhile (· == mark)).reverse.dropWhile (· == mark)).reverse

/-- Whether a character may stand in an identifier. -/
def isIdentifierCharacter (c : Char) : Bool := c.isAlphanum || c == '_'

/-- The identifier that ASCII text becomes. -/
def identifierOfAscii (text : List Char) : List Char :=
  trim '_' (squeeze '_' (· == '_') (squeeze '_' (!isIdentifierCharacter ·) text))

/-- The identifier a text becomes whose characters are spelled in ASCII by `spelling`. -/
def sanitizeBy (spelling : Char → List Char) (text : String) : String :=
  String.ofList (identifierOfAscii (text.toList.flatMap spelling))

/-- The identifier a text becomes: ASCII letters, digits and single inner underscores. -/
def sanitize (text : String) : String := sanitizeBy asciiSpelling text

/-- The maximal runs of ASCII letters and digits of a text, in order. -/
def alphanumericRuns : List Char → List (List Char)
  | [] => []
  | c :: rest =>
    if c.isAlphanum then
      match rest, alphanumericRuns rest with
      | d :: _, run :: others => if d.isAlphanum then (c :: run) :: others else [c] :: run :: others
      | _, others => [c] :: others
    else alphanumericRuns rest

/-- Spelling the characters of a text is transliterating it. -/
@[simp] theorem sanitizeBy_asciiSpelling (text : String) :
    sanitizeBy asciiSpelling text =
      String.ofList (identifierOfAscii (transliterate text.toList)) := rfl

end ApiWiring.Text
