import ApiWiring.Text.LetterCase

/-!
# Labels

A finite type whose values are written as labels: documents write a label to the letter, and some
texts are read ignoring the case of ASCII letters.
-/
namespace ApiWiring

/-- A finite type with a label for each value. -/
class Labelled (α : Type) where
  /-- All values, in their order. -/
  all : List α
  /-- The label of a value. -/
  label : α → String

export Labelled (label)

namespace Labelled

variable {α : Type} [Labelled α]

/-- The first value with exactly this label. -/
def ofLabel? (text : String) : Option α := all.find? fun value => label value == text

/-- The first value whose label equals the text ignoring ASCII case. -/
def parse? (text : String) : Option α :=
  all.find? fun value => decide (Text.EqualIgnoringCase (label value) text)

/-- A value found by a label has that label. -/
theorem label_of_ofLabel? {text : String} {value : α} (found : ofLabel? text = some value) :
    label value = text := by
  simpa using List.find?_some found

end Labelled

end ApiWiring
