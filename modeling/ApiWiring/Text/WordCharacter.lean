import ApiWiring.Text.WordTable

/-!
# Word characters

A word character is a letter, a mark, a decimal digit, a connecting punctuation mark or a joiner,
in any script. The plural endings of `ApiWiring.Text.Singular` extend to the left over a run of
word characters.
-/
namespace ApiWiring.Text

/-- Whether a character belongs to a word. -/
def isWordCharacter (c : Char) : Bool :=
  if c.toNat < 128 then c.isAlphanum || c == '_'
  else WordTable.ranges.any fun (first, last) => first ≤ c.toNat && c.toNat ≤ last

/-- Every ASCII letter and digit is a word character. -/
theorem isWordCharacter_of_isAlphanum {c : Char} (ascii : c.toNat < 128)
    (alphanumeric : c.isAlphanum = true) : isWordCharacter c = true := by
  simp [isWordCharacter, ascii, alphanumeric]

end ApiWiring.Text
