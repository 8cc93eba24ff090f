import ApiWiring.Text.Casing
import ApiWiring.Text.Label

/-!
# Naming conventions

The casing styles in which APIs spell names of several words.
-/
namespace ApiWiring

/-- A casing style. -/
inductive NamingConvention where
  | camelCase | pascalCase | hyphenSeparator | underscoreSeparator
deriving DecidableEq, Repr, Inhabited

instance : Labelled NamingConvention where
  all := [.camelCase, .pascalCase, .hyphenSeparator, .underscoreSeparator]
  label
    | .camelCase => "camel_case"
    | .pascalCase => "pascal_case"
    | .hyphenSeparator => "hyphen_separator"
    | .underscoreSeparator => "underscore_separator"

namespace NamingConvention

/-- The spelling of a style on a command line. -/
def flag : NamingConvention → String
  | .camelCase => "camel-case"
  | .pascalCase => "pascal-case"
  | .hyphenSeparator => "hyphen-separator"
  | .underscoreSeparator => "underscore-separator"

/-- The style with exactly this spelling on a command line. -/
def ofFlag? (text : String) : Option NamingConvention :=
  Labelled.all.find? fun convention => convention.flag == text

/-- The style whose spelling on a command line equals the text ignoring ASCII case. -/
def parseFlag? (text : String) : Option NamingConvention :=
  Labelled.all.find? fun (convention : NamingConvention) =>
    decide (Text.EqualIgnoringCase convention.flag text)

/-- The style that a name is probably written in: its separator tells, else its first letter. -/
def infer (name : String) : NamingConvention :=
  let characters := name.toList
  if characters.contains '_' then .underscoreSeparator
  else if characters.contains '-' then .hyphenSeparator
  else if characters.head?.any Char.isUpper then .pascalCase
  else .camelCase

/-- The name made of words in a style. -/
def render (convention : NamingConvention) (words : List String) : String :=
  let name := "_".intercalate words
  match convention with
  | .camelCase => String.ofList (Text.camelCase name.toList)
  | .pascalCase => String.ofList (Text.pascalCase name.toList)
  | .hyphenSeparator => String.ofList (Text.kebabCase name.toList)
  | .underscoreSeparator => name

end NamingConvention

end ApiWiring
