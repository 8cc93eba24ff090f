import ApiWiring.Json.Number

/-!
# Reading JSON text

A text is read if it is well formed to the letter: one value, blanks around it, nothing else; no raw
control characters in strings, no superfluous zeros, no trailing commas. Each reading function takes
the characters that are left and returns what it read with the characters after it; `none` means
that the text is not well formed. A part that is well formed and stands for no value is read as
`Json.unreadable`, so that the caller can still leave it out.
-/
namespace ApiWiring.Json

/-- How many brackets may enclose a value, its own included. -/
def greatestDepth : Nat := 127

/-- The value of a hexadecimal digit. -/
def hexDigit? (c : Char) : Option Nat :=
  if c.isDigit then some (c.toNat - '0'.toNat)
  else if 'a' ≤ c && c ≤ 'f' then some (c.toNat - 'a'.toNat + 10)
  else if 'A' ≤ c && c ≤ 'F' then some (c.toNat - 'A'.toNat + 10)
  else none

/-- The code unit that four hexadecimal digits name. -/
def codeUnit? (a b c d : Char) : Option Nat := do
  let a ← hexDigit? a
  let b ← hexDigit? b
  let c ← hexDigit? c
  let d ← hexDigit? d
  some (((a * 16 + b) * 16 + c) * 16 + d)

/-- The character that a backslash and a letter stand for. -/
def escaped? : Char → Option Char
  | '"' => some '"'
  | '\\' => some '\\'
  | '/' => some '/'
  | 'b' => some '\x08'
  | 'f' => some '\x0c'
  | 'n' => some '\n'
  | 'r' => some '\r'
  | 't' => some '\t'
  | _ => none

/-- Reads up to the closing quote; the code units read come in reverse order. -/
def readUnits (done : List Nat) : List Char → Option (List Nat × List Char)
  | [] => none
  | '"' :: rest => some (done, rest)
  | '\\' :: 'u' :: a :: b :: c :: d :: rest => do
    let unit ← codeUnit? a b c d
    readUnits (unit :: done) rest
  | '\\' :: c :: rest => do
    let found ← escaped? c
    readUnits (found.toNat :: done) rest
  | c :: rest => if c.toNat < 0x20 || c == '\\' then none else readUnits (c.toNat :: done) rest

/-- Whether a code unit opens a surrogate pair. -/
def isHighSurrogate (unit : Nat) : Bool := 0xD800 ≤ unit && unit < 0xDC00

/-- Whether a code unit closes a surrogate pair. -/
def isLowSurrogate (unit : Nat) : Bool := 0xDC00 ≤ unit && unit < 0xE000

/-- The characters of code units in reverse order, put before those done; `none` when a surrogate
stands alone. -/
def characters? (done : List Char) : List Nat → Option (List Char)
  | [] => some done
  | unit :: rest =>
    if isLowSurrogate unit then
      match rest with
      | high :: rest =>
        if isHighSurrogate high then
          let code := 0x10000 + (high - 0xD800) * 0x400 + (unit - 0xDC00)
          characters? (Char.ofNat code :: done) rest
        else none
      | [] => none
    else if isHighSurrogate unit then none
    else characters? (Char.ofNat unit :: done) rest

/-- Reads a string after its opening quote; the string is `none` when it holds a lone surrogate. -/
def readString (text : List Char) : Option (Option String × List Char) := do
  let (units, rest) ← readUnits [] text
  some ((characters? [] units).map String.ofList, rest)

/-- Whether a character is blank between tokens. -/
def isBlank (c : Char) : Bool := c == ' ' || c == '\n' || c == '\t' || c == '\r'

/-- The text without leading blanks. -/
def skipBlanks (text : List Char) : List Char := text.dropWhile isBlank

/-- The digits at the front of a text, and the text after them. -/
def takeDigits (text : List Char) : List Nat × List Char :=
  ((text.takeWhile Char.isDigit).map fun c => c.toNat - '0'.toNat, text.dropWhile Char.isDigit)

/-- Reads the digits before the point: a single zero, or digits that begin with another one. -/
def readWhole (text : List Char) : Option (List Nat × List Char) :=
  match takeDigits text with
  | ([], _) => none
  | (0 :: _ :: _, _) => none
  | found => some found

/-- Reads a point and the digits after it, if there is a point. -/
def readFraction : List Char → Option (List Nat × List Char)
  | '.' :: rest => match takeDigits rest with
    | ([], _) => none
    | found => some found
  | rest => some ([], rest)

/-- Reads the digits of an exponent. -/
def readPowerDigits (below : Bool) (text : List Char) :
    Option (Option (Bool × List Nat) × List Char) :=
  match takeDigits text with
  | ([], _) => none
  | (digits, rest) => some (some (below, digits), rest)

/-- Reads an exponent after its letter. -/
def readPowerAfterLetter : List Char → Option (Option (Bool × List Nat) × List Char)
  | '+' :: rest => readPowerDigits false rest
  | '-' :: rest => readPowerDigits true rest
  | rest => readPowerDigits false rest

/-- Reads an exponent, if there is one. -/
def readPower : List Char → Option (Option (Bool × List Nat) × List Char)
  | 'e' :: rest => readPowerAfterLetter rest
  | 'E' :: rest => readPowerAfterLetter rest
  | rest => some (none, rest)

/-- Reads a number after its sign. -/
def readNumeral (negative : Bool) (text : List Char) : Option (Numeral × List Char) := do
  let (whole, rest) ← readWhole text
  let (fraction, rest) ← readFraction rest
  let (power, rest) ← readPower rest
  some (⟨negative, whole, fraction, power⟩, rest)

/-- Reads a given word. -/
def readWord (word : String) (json : Json) (text : List Char) : Option (Json × List Char) :=
  if word.toList.isPrefixOf text then some (json, text.drop word.length) else none

/-- The object of members whose keys may be unreadable, in reverse order. -/
def objectOf (reversed : List (Option String × Json)) : Json :=
  match (reversed.reverse.mapM fun (key, member) => key.map (·, member)) with
  | some members => .obj members
  | none => .unreadable

/-- The container read, unless too many brackets enclose it. -/
def withinDepth (depth : Nat) (container : Json) : Json :=
  if depth ≤ greatestDepth then container else .unreadable

mutual

/-- Reads a value after blanks; `depth` brackets enclose it. -/
def readValue (fuel : Nat) (depth : Nat) (text : List Char) : Option (Json × List Char) :=
  match fuel with
  | 0 => none
  | fuel + 1 =>
    match skipBlanks text with
    | '"' :: rest => do
      let (found, rest) ← readString rest
      some (found.elim .unreadable .str, rest)
    | '[' :: rest =>
      match skipBlanks rest with
      | ']' :: rest => some (withinDepth (depth + 1) (.arr []), rest)
      | _ => readItems fuel (depth + 1) [] rest
    | '{' :: rest =>
      match skipBlanks rest with
      | '}' :: rest => some (withinDepth (depth + 1) (.obj []), rest)
      | _ => readMembers fuel (depth + 1) [] rest
    | '-' :: rest => do
      let (numeral, rest) ← readNumeral true rest
      some (numeral.value, rest)
    | 'n' :: rest => readWord "ull" .null rest
    | 't' :: rest => readWord "rue" (.bool true) rest
    | 'f' :: rest => readWord "alse" (.bool false) rest
    | rest => do
      let (numeral, rest) ← readNumeral false rest
      some (numeral.value, rest)

/-- Reads the items of an array up to its closing bracket; those done come in reverse order. -/
def readItems (fuel : Nat) (depth : Nat) (done : List Json) (text : List Char) :
    Option (Json × List Char) :=
  match fuel with
  | 0 => none
  | fuel + 1 => do
    let (item, rest) ← readValue fuel depth text
    match skipBlanks rest with
    | ',' :: rest => readItems fuel depth (item :: done) rest
    | ']' :: rest => some (withinDepth depth (.arr (item :: done).reverse), rest)
    | _ => none

/-- Reads the members of an object up to its closing brace; those done come in reverse order. -/
def readMembers (fuel : Nat) (depth : Nat) (done : List (Option String × Json))
    (text : List Char) : Option (Json × List Char) :=
  match fuel with
  | 0 => none
  | fuel + 1 =>
    match skipBlanks text with
    | '"' :: rest => do
      let (key, rest) ← readString rest
      match skipBlanks rest with
      | ':' :: rest => do
        let (member, rest) ← readValue fuel depth rest
        match skipBlanks rest with
        | ',' :: rest => readMembers fuel depth ((key, member) :: done) rest
        | '}' :: rest => some (withinDepth depth (objectOf ((key, member) :: done)), rest)
        | _ => none
      | _ => none
    | _ => none

end

/-- The value that a text consists of; `none` when it is not well formed. Every call of a reading
function takes at least one character, so a call for each character is enough. -/
def read (text : String) : Option Json :=
  let characters := text.toList
  match readValue (characters.length + 1) 0 characters with
  | some (json, rest) => if (skipBlanks rest).isEmpty then some json else none
  | none => none

/-- The value that a text consists of, read as a whole. -/
def readWhole? (text : String) : Option Json := do
  let json ← read text
  json.value?

end ApiWiring.Json
