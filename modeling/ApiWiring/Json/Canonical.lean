import ApiWiring.Json.Printer

/-!
# Canonical JSON text

The canonical text of a value does not depend on the order in which the members of its objects were
written: they are sorted by the UTF-16 code units of their keys. Numbers have the notation of
ECMAScript, in which `1.0` is `1`; an integer that a double cannot be trusted to hold has no
canonical text. Everything else is as in compact text.
-/
namespace ApiWiring.Json

/-- Doubles are written in positions from `0.000001` to twenty-one digits before the point, a whole
number without a decimal and zero without a sign. -/
def canonicalLayout : Binary64.Layout := ⟨-6, 20, false⟩

/-- The greatest integer with a canonical text. -/
def greatestSafeInteger : Nat := Nat.pow 2 53 - 1

/-- The UTF-16 code units of a character. -/
def utf16Units (c : Char) : List Nat :=
  if c.toNat < 0x10000 then [c.toNat]
  else [0xD800 + (c.toNat - 0x10000) / 0x400, 0xDC00 + (c.toNat - 0x10000) % 0x400]

/-- The UTF-16 code units of a key. -/
def keyUnits (key : String) : List Nat := key.toList.flatMap utf16Units

/-- Whether one member goes before another, or has its key. -/
def canonicalBefore {α : Type} (left right : String × α) : Bool :=
  !decide (keyUnits right.1 < keyUnits left.1)

/-- Members in canonical order. -/
def canonicalOrder {α : Type} (members : List (String × α)) : List (String × α) :=
  members.mergeSort canonicalBefore

/-- The canonical text of a value without containers. -/
def canonicalScalar? : Json → Option (List Char)
  | .int n => if n.natAbs ≤ greatestSafeInteger then some (integerText n) else none
  | .float x => some (x.text canonicalLayout)
  | .unreadable => none
  | scalar => some (scalarText scalar)

/-- Texts with commas between them. -/
def commaSeparated : List (List Char) → List Char
  | [] => []
  | [text] => text
  | text :: rest => text ++ ',' :: commaSeparated rest

mutual

/-- The canonical text of a value, if it has one. -/
def canonicalText? : Json → Option (List Char)
  | .arr items => do
    let texts ← canonicalItems? items
    some ('[' :: commaSeparated texts ++ [']'])
  | .obj members => do
    let texts ← canonicalMembers? members
    let texts := (canonicalOrder texts).map fun (key, text) => quoted key ++ ':' :: text
    some ('{' :: commaSeparated texts ++ ['}'])
  | scalar => canonicalScalar? scalar

/-- The canonical texts of items. -/
def canonicalItems? : List Json → Option (List (List Char))
  | [] => some []
  | item :: rest => do
    let text ← canonicalText? item
    let rest ← canonicalItems? rest
    some (text :: rest)

/-- The keys of members with their canonical texts. -/
def canonicalMembers? : List (String × Json) → Option (List (String × List Char))
  | [] => some []
  | (key, member) :: rest => do
    let text ← canonicalText? member
    let rest ← canonicalMembers? rest
    some ((key, text) :: rest)

end

/-- The canonical text of a value, if it has one. -/
def canonical? (json : Json) : Option String := (canonicalText? json).map String.ofList

end ApiWiring.Json
