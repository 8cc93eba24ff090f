import ApiWiring.Json.Basic
import ApiWiring.Numeric.Shortest

/-!
# JSON text

Two layouts of one notation: `compact` puts everything on one line without blanks, `pretty` puts
every item and member on a line of its own, two blanks further in than its container, with empty
containers closed at once. Strings escape the quote, the backslash and the characters below the
blank, and nothing else.
-/
namespace ApiWiring.Json

/-- Doubles are written in positions from `0.00001` to sixteen digits before the point, and keep a
decimal there. -/
def numberLayout : Binary64.Layout := ⟨-5, 15, true⟩

/-- A digit of a hexadecimal number in small letters. -/
def hexDigit (n : Nat) : Char := (Nat.digitChar (n % 16))

/-- The text of one character inside a string. -/
def escape (c : Char) : List Char :=
  if c == '"' then ['\\', '"']
  else if c == '\\' then ['\\', '\\']
  else if c == '\x08' then ['\\', 'b']
  else if c == '\x0c' then ['\\', 'f']
  else if c == '\n' then ['\\', 'n']
  else if c == '\r' then ['\\', 'r']
  else if c == '\t' then ['\\', 't']
  else if c.toNat < 0x20 then
    ['\\', 'u', '0', '0', hexDigit (c.toNat / 16), hexDigit c.toNat]
  else [c]

/-- The text of a string with its quotes. -/
def quoted (text : String) : List Char := '"' :: text.toList.flatMap escape ++ ['"']

/-- The decimal text of an integer. -/
def integerText (n : Int) : List Char :=
  if n < 0 then '-' :: Decimal.digits n.natAbs else Decimal.digits n.natAbs

/-- The text of a value without containers. -/
def scalarText : Json → List Char
  | .null => "null".toList
  | .bool true => "true".toList
  | .bool false => "false".toList
  | .int n => integerText n
  | .float x => x.text numberLayout
  | .str s => quoted s
  | _ => []

mutual

/-- The compact text of a value. -/
def compactText : Json → List Char
  | .arr items => '[' :: compactItems items ++ [']']
  | .obj members => '{' :: compactMembers members ++ ['}']
  | scalar => scalarText scalar

/-- The compact texts of items, with commas between them. -/
def compactItems : List Json → List Char
  | [] => []
  | [item] => compactText item
  | item :: rest => compactText item ++ ',' :: compactItems rest

/-- The compact texts of members, with commas between them. -/
def compactMembers : List (String × Json) → List Char
  | [] => []
  | [(key, member)] => quoted key ++ ':' :: compactText member
  | (key, member) :: rest => quoted key ++ ':' :: compactText member ++ ',' :: compactMembers rest

end

/-- The value on one line without blanks. -/
def compact (json : Json) : String := String.ofList (compactText json)

/-- A line break and the indentation of a level. -/
def lineBreak (level : Nat) : List Char := '\n' :: List.replicate (2 * level) ' '

mutual

/-- The text of a value at a level of indentation. -/
def prettyText (level : Nat) : Json → List Char
  | .arr [] => ['[', ']']
  | .arr items => '[' :: prettyItems (level + 1) items ++ lineBreak level ++ [']']
  | .obj [] => ['{', '}']
  | .obj members => '{' :: prettyMembers (level + 1) members ++ lineBreak level ++ ['}']
  | scalar => scalarText scalar

/-- The texts of items, each on a line of its own. -/
def prettyItems (level : Nat) : List Json → List Char
  | [] => []
  | [item] => lineBreak level ++ prettyText level item
  | item :: rest => lineBreak level ++ prettyText level item ++ ',' :: prettyItems level rest

/-- The texts of members, each on a line of its own. -/
def prettyMembers (level : Nat) : List (String × Json) → List Char
  | [] => []
  | [(key, member)] => lineBreak level ++ quoted key ++ ':' :: ' ' :: prettyText level member
  | (key, member) :: rest =>
    lineBreak level ++ quoted key ++ ':' :: ' ' :: prettyText level member ++
      ',' :: prettyMembers level rest

end

/-- The value with every item and member on a line of its own. -/
def pretty (json : Json) : String := String.ofList (prettyText 0 json)

end ApiWiring.Json
