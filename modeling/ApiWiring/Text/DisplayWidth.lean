import ApiWiring.Text.WidthTable

/-!
# Display width

How many cells of a character grid a text takes. Most characters take their own cells, wherever they
stand: one as a rule, two for those of East Asian scripts and pictures, none for marks. Some take
others because of what stands behind them: a picture joined to the next one, a flag, a letter that
flows together with the next letter. So a text is measured from its end, and each character is told
what it precedes (`Follower`). A control character takes one cell.
-/
namespace ApiWiring.Text

open WidthTable

/-- The part of a ligature that stands behind a character. -/
inductive Ligature where
  /-- An Arabic alef, which a lam joins. -/
  | alef
  /-- A Hebrew lamed, which an alef joins over a joiner. -/
  | lamed
  /-- A Buginese ya, which a vowel and a letter join over a joiner. -/
  | ya
  /-- A Buginese ya with the vowel before it. -/
  | vowelAndYa
  /-- A Tifinagh consonant, which another one joins over a joiner. -/
  | consonant
  /-- A Tifinagh consonant with the consonant joiner before it. -/
  | joinerAndConsonant
  /-- A Lisu tone letter that another one joins. -/
  | toneLetter
  /-- An Old Turkic letter that another one joins over a joiner. -/
  | orkhonI
  /-- A Khmer letter that is written below when a coeng stands before it. -/
  | belowLetter
deriving DecidableEq, Repr

/-- What stands behind a character, as far as its width depends on it. -/
inductive Follower where
  /-- Nothing of the following. -/
  | plain
  /-- A line feed. -/
  | lineFeed
  /-- A skin tone. -/
  | tone
  /-- One letter of a flag. -/
  | flagLetter
  /-- Several letters of flags. -/
  | flagLetters
  /-- A picture. -/
  | picture
  /-- A joiner and a picture. -/
  | joinedPicture
  /-- A keycap, joined to a picture. -/
  | joinedKeycap
  /-- A letter of a flag, joined to a picture. -/
  | joinedFlagLetter
  /-- Letters of flags, joined to a picture; whether their number is even. -/
  | joinedFlagLetters (even : Bool)
  /-- Tags that end in a letter, or the end of the tags alone, joined to a picture. -/
  | joinedTags (letters : Nat)
  /-- Tags that begin with digits, joined to a picture. -/
  | joinedTagDigits (digits : Nat)
  /-- A Kirat Rai vowel sign that another one joins. -/
  | vowelE
  /-- Two Kirat Rai vowel signs that another one joins. -/
  | vowelAi
  /-- The selector of the wide form of a quotation mark. -/
  | wideForm
  /-- A part of a ligature; whether a joiner stands before it. -/
  | ligature (part : Ligature) (joined : Bool)
deriving DecidableEq, Repr

/-- The selector between a character and what follows it. -/
inductive Selector where
  | none | picture | text
deriving DecidableEq, Repr

/-- What stands behind a character, a selector first if there is one. -/
structure Following where
  /-- What follows. -/
  follower : Follower
  /-- The selector before it. -/
  selector : Selector
deriving DecidableEq, Repr

namespace Following

/-- Nothing that matters. -/
def plain : Following := ⟨.plain, .none⟩

/-- What follows without a selector before it. -/
def only (follower : Follower) : Following := ⟨follower, .none⟩

/-- What follows, with the selector of pictures before it. -/
def behindPictureSelector (following : Following) : Following :=
  match following.follower with
  | .ligature .. | .joinedPicture | .joinedKeycap => { following with selector := .picture }
  | _ => ⟨.plain, .picture⟩

/-- What follows, with the selector of text before it. -/
def behindTextSelector (following : Following) : Following :=
  match following.follower with
  | .ligature .. => { following with selector := .text }
  | _ => ⟨.plain, .text⟩

/-- What follows, when the selector before it selects nothing. -/
def withoutSelector (following : Following) : Following :=
  match following.follower, following.selector with
  | .ligature part joined, _ => ⟨.ligature part joined, .none⟩
  | follower, .text => ⟨follower, .none⟩
  | _, .picture => plain
  | follower, .none => ⟨follower, .none⟩

end Following

/-- Whether a code point lies between two others. -/
def isBetween (first last code : Nat) : Bool := first ≤ code && code ≤ last

/-- Whether a code point is a letter of a flag. -/
def isFlagLetter (code : Nat) : Bool := isBetween 0x1F1E6 0x1F1FF code

/-- Whether a code point is a skin tone. -/
def isTone (code : Nat) : Bool := isBetween 0x1F3FB 0x1F3FF code

/-- The ligature that a code point may be the last part of. -/
def ligature? (code : Nat) : Option Ligature :=
  if code = 0x5DC then some .lamed
  else if holds [(0x622, 0x623), (0x625, 0x625), (0x627, 0x627), (0x671, 0x673), (0x675, 0x675),
      (0x773, 0x774), (0x870, 0x882)] code then some .alef
  else if holds [(0x1780, 0x1782), (0x1784, 0x1787), (0x1789, 0x178C), (0x178E, 0x1793),
      (0x1795, 0x1798), (0x179B, 0x179D), (0x17A0, 0x17A0), (0x17A2, 0x17A2), (0x17A7, 0x17A7),
      (0x17AB, 0x17AC), (0x17AF, 0x17AF)] code then some .belowLetter
  else if code = 0x1A10 then some .ya
  else if isBetween 0x2D31 0x2D65 code || code = 0x2D6F then some .consonant
  else if isBetween 0xA4FC 0xA4FD code then some .toneLetter
  else if code = 0x10C03 then some .orkhonI
  else none

/-- How many cells a code point takes on its own, and what it is to the character before it. -/
def ownWidth (code : Nat) : Int × Following :=
  if code = 0xFE0E then (0, ⟨.plain, .text⟩)
  else if code = 0xFE0F then (0, ⟨.plain, .picture⟩)
  else if code = 0xFE01 then (0, .only .wideForm)
  else if code = 0x16D67 then (1, .only .vowelE)
  else if code = 0x16D68 then (1, .only .vowelAi)
  else if code = 0x17D8 then (3, .plain)
  else if isFlagLetter code then (1, .only .flagLetter)
  else if isTone code then (2, .only .tone)
  else if holds picture code then (2, .only .picture)
  else match ligature? code with
    | some part => (1, .only (.ligature part false))
    | none =>
      if holds zero code then (0, .plain)
      else if holds wide code then (2, .plain)
      else (1, .plain)

/-- Whether a code point is hidden in any ligature. -/
def isHiddenInLigatures (code : Nat) : Bool :=
  holds [(0x34F, 0x34F), (0x17B4, 0x17B5), (0x180B, 0x180D), (0x180F, 0x180F), (0xFE00, 0xFE0F),
    (0xE0100, 0xE01EF)] code

/-- How many cells the rest of a ligature adds; `none` where the ligature is not made. -/
def ligatureWidth? (part : Ligature) (joined : Bool) (code : Nat) : Option (Int × Following) :=
  if part ≠ .alef && code = 0x200D then
    some (0, .only (.ligature part true))
  else if part ≠ .alef && isHiddenInLigatures code then some (0, .only (.ligature part joined))
  else
    match part, joined with
    | .alef, _ =>
      if holds [(0x644, 0x644), (0x6B5, 0x6B8), (0x76A, 0x76A), (0x8A6, 0x8A6), (0x8C7, 0x8C7)] code
      then some (0, .plain)
      else if (ownWidth code).1 = 0 && !holds zeroBetween code then
        some (0, .only (.ligature .alef joined))
      else none
    | .lamed, true => if code = 0x5D0 then some (0, .plain) else none
    | .belowLetter, _ => if code = 0x17D2 then some (-1, .plain) else none
    | .ya, true => if code = 0x1A17 then some (0, .only (.ligature .vowelAndYa true)) else none
    | .vowelAndYa, _ => if code = 0x1A15 then some (0, .plain) else none
    | .consonant, _ =>
      if code = 0x2D7F then some (1, .only (.ligature .joinerAndConsonant true))
      else if joined && ligature? code = some .consonant then some (0, .plain)
      else none
    | .joinerAndConsonant, _ => if ligature? code = some .consonant then some (-1, .plain) else none
    | .toneLetter, _ => if isBetween 0xA4F8 0xA4FB code then some (0, .plain) else none
    | .orkhonI, true => if code = 0x10C32 then some (0, .plain) else none
    | .lamed, false | .ya, false | .orkhonI, false => none

/-- How many cells a code point adds before a picture that a joiner ties to it; `none` where it is
not tied. -/
def joinedWidth? (code : Nat) : Option (Int × Following) :=
  if code = 0x20E3 then some (0, .only .joinedKeycap)
  else if isFlagLetter code then some (1, .only .joinedFlagLetter)
  else if isTone code then some (0, .only .tone)
  else if code = 0xE007F then some (0, .only (.joinedTags 0))
  else if holds picture code then some (0, .only .picture)
  else none

/-- How many cells a code point adds before tags; `none` where it does not belong to them. A black
flag with the tags of a region in front is a flag. -/
def taggedWidth? (letters digits : Nat) (code : Nat) : Option (Int × Following) :=
  if code = 0x1F3F4 && (if digits = 0 then 3 ≤ letters else digits = 3) then
    some (0, .only .picture)
  else if isBetween 0xE0061 0xE007A code && digits = 0 && letters < 6 then
    some (0, .only (.joinedTags (letters + 1)))
  else if isBetween 0xE0030 0xE0039 code && digits < 3 && letters ≤ 3 then
    some (0, .only (.joinedTagDigits (digits + 1)))
  else none

/-- How many cells a code point adds because of what follows, and what it is to the character before
it; `none` where it takes its own cells. -/
def followedWidth? (follower : Follower) (code : Nat) : Option (Int × Following) :=
  match follower with
  | .plain | .lineFeed | .joinedKeycap => none
  | .ligature part joined => ligatureWidth? part joined code
  | .tone =>
    if holds toned code then some (0, .only .picture)
    else if code = 0x200D then some (0, .only .joinedPicture)
    else none
  | .flagLetter => if isFlagLetter code then some (1, .only .flagLetters) else none
  | .flagLetters =>
    if isFlagLetter code then some (1, .only .flagLetters)
    else if code = 0x200D then some (0, .only .joinedPicture)
    else none
  | .picture => if code = 0x200D then some (0, .only .joinedPicture) else none
  | .joinedPicture => joinedWidth? code
  | .joinedFlagLetter =>
    if isFlagLetter code then some (-1, .only (.joinedFlagLetters true)) else none
  | .joinedFlagLetters even =>
    if isFlagLetter code then
      some (if even then (3, .only (.joinedFlagLetters false))
        else (-1, .only (.joinedFlagLetters true)))
    else if code = 0x200D then some (0, .only .joinedPicture)
    else none
  | .joinedTags letters => taggedWidth? letters 0 code
  | .joinedTagDigits digits => taggedWidth? 0 digits code
  | .vowelE =>
    if code = 0x16D63 then some (0, .plain)
    else if code = 0x16D67 then some (0, .only .vowelAi)
    else if code = 0x16D68 then some (1, .only .vowelE)
    else if code = 0x16D69 then some (0, .plain)
    else none
  | .vowelAi => if code = 0x16D63 then some (0, .plain) else none
  | .wideForm =>
    if isBetween 0x2018 0x2019 code || isBetween 0x201C 0x201D code then some (2, .plain) else none

/-- How many cells a character adds before what follows no selector, and what it is to the character
before it. -/
def addedWidth (following : Following) (code : Nat) : Int × Following :=
  if code ≤ 0xA0 then
    if code = 0x0A then (1, .only .lineFeed)
    else if code = 0x0D && following.follower = .lineFeed then (0, .plain)
    else (1, .plain)
  else if code = 0xFE0F then (0, following.behindPictureSelector)
  else if code = 0xFE0E then (0, following.behindTextSelector)
  else if following.selector = .text && holds textChoice code then (1, .plain)
  else
    let following := following.withoutSelector
    (followedWidth? following.follower code).getD (ownWidth code)

/-- How many cells a character adds to those that follow, and what it is to the character before
it. -/
def widthBefore (following : Following) (c : Char) : Int × Following :=
  if following.selector = .picture then
    if holds pictureChoice c.toNat then
      let joined := following.follower = .joinedPicture || following.follower = .joinedKeycap
      (if joined then 0 else 2, .only .picture)
    else addedWidth following.withoutSelector c.toNat
  else addedWidth following c.toNat

/-- The cells of a text, and what it is to a character before it. -/
def measure : List Char → Int × Following
  | [] => (0, .plain)
  | c :: rest =>
    let (width, following) := measure rest
    let (added, following) := widthBefore following c
    (width + added, following)

/-- How many cells a text takes. -/
def widthOf (text : List Char) : Nat := (measure text).1.toNat

end ApiWiring.Text
