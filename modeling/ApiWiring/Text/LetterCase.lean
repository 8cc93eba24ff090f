import ApiWiring.Text.CaseTable

/-!
# Letter case

Two notions of letter case live side by side. Keys and enumeration labels are compared ignoring
the case of ASCII letters only (`foldCase`, `EqualIgnoringCase`); names are put into a casing style
with the full case mappings of Unicode (`lowercase`, `uppercase`), where one character may become
several. On ASCII the two agree.
-/
namespace ApiWiring.Text

/-- The characters of a text with ASCII capitals made small; every other character stays. -/
def foldCase (text : String) : List Char := text.toList.map Char.toLower

/-- Two texts that differ at most in the case of ASCII letters. -/
abbrev EqualIgnoringCase (left right : String) : Prop := foldCase left = foldCase right

namespace CaseTable

/-- Whether a stretch holds a code point. -/
def Stretch.holds (stretch : Stretch) (code : Nat) : Bool :=
  let (first, last, step) := stretch
  first ≤ code && code ≤ last && (code - first) % step == 0

/-- The counterpart a mapping gives to a code point, if it has one. -/
def Mapping.image? (mapping : Mapping) (code : Nat) : Option Nat :=
  let (first, last, step, target) := mapping
  if Stretch.holds (first, last, step) code then some (target + (code - first)) else none

/-- The counterpart of a character beyond ASCII, the character itself where there is none. -/
def counterpart (mappings : List Mapping) (expanding : List (Nat × List Nat)) (c : Char) :
    List Char :=
  match expanding.find? (·.1 == c.toNat) with
  | some (_, codes) => codes.map Char.ofNat
  | none => match mappings.findSome? (Mapping.image? · c.toNat) with
    | some code => [Char.ofNat code]
    | none => [c]

end CaseTable

/-- The lower-case form of a character. -/
def lowercase (c : Char) : List Char :=
  if c.toNat < 128 then [c.toLower]
  else CaseTable.counterpart CaseTable.lower CaseTable.lowerExpanding c

/-- The upper-case form of a character. -/
def uppercase (c : Char) : List Char :=
  if c.toNat < 128 then [c.toUpper]
  else CaseTable.counterpart CaseTable.upper CaseTable.upperExpanding c

/-- Whether a character is a small letter. -/
def isLowercase (c : Char) : Bool :=
  if c.toNat < 128 then c.isLower else CaseTable.lowercase.any (·.holds c.toNat)

/-- Whether a character is a capital letter. -/
def isUppercase (c : Char) : Bool :=
  if c.toNat < 128 then c.isUpper else CaseTable.uppercase.any (·.holds c.toNat)

/-- An ASCII character has the lower-case form of its class. -/
theorem lowercase_of_ascii {c : Char} (ascii : c.toNat < 128) : lowercase c = [c.toLower] := by
  simp [lowercase, ascii]

end ApiWiring.Text
