import ApiWiring.Text.Label
import ApiWiring.Text.Segments

/-!
# Styles of console output

Output names a role for every piece of text, and a style gives a role its color. Without colors a
text is still wrapped in escape codes, those of the terminal's own color, so the two kinds of output
differ in the codes alone.
-/
namespace ApiWiring.Console

/-- When to write in colors. -/
inductive ColorChoice where
  | always | auto | never
deriving DecidableEq, Repr, Inhabited

instance : Labelled ColorChoice where
  all := [.always, .auto, .never]
  label
    | .always => "always"
    | .auto => "auto"
    | .never => "never"

/-- The background that is asked for. -/
inductive ThemeChoice where
  | dark | light | auto
deriving DecidableEq, Repr, Inhabited

instance : Labelled ThemeChoice where
  all := [.dark, .light, .auto]
  label
    | .dark => "dark"
    | .light => "light"
    | .auto => "auto"

/-- The background of a terminal. -/
inductive Theme where
  | dark | light
deriving DecidableEq, Repr, Inhabited

/-- What a piece of text is for. -/
inductive Role where
  | timestamp | primary | accent | success | label | value | resolved | unresolved
deriving DecidableEq, Repr, Inhabited

/-- A color by its red, green and blue. -/
structure Color where
  /-- Red, of 255. -/
  red : Nat
  /-- Green, of 255. -/
  green : Nat
  /-- Blue, of 255. -/
  blue : Nat
deriving DecidableEq, Repr, Inhabited

namespace Theme

/-- The color of a role before a background. -/
def color : Theme → Role → Color
  | .dark, .timestamp => ⟨118, 166, 166⟩
  | .dark, .primary => ⟨191, 126, 4⟩
  | .dark, .accent => ⟨166, 84, 55⟩
  | .dark, .success => ⟨118, 166, 166⟩
  | .dark, .label => ⟨217, 164, 4⟩
  | .dark, .value => ⟨242, 211, 56⟩
  | .dark, .resolved => ⟨120, 180, 120⟩
  | .dark, .unresolved => ⟨200, 90, 80⟩
  | .light, .timestamp => ⟨92, 62, 38⟩
  | .light, .primary => ⟨70, 42, 25⟩
  | .light, .accent => ⟨211, 99, 70⟩
  | .light, .success => ⟨34, 142, 90⟩
  | .light, .label => ⟨176, 103, 66⟩
  | .light, .value => ⟨199, 146, 76⟩
  | .light, .resolved => ⟨34, 120, 70⟩
  | .light, .unresolved => ⟨180, 50, 40⟩

/-- The number that digits spell, a plus sign in front allowed; `none` for other texts. -/
def number? (text : List Char) : Option Nat :=
  let digits := if text.head? = some '+' then text.tail else text
  if digits ≠ [] ∧ digits.all Char.isDigit then
    some (digits.foldl (fun value c => 10 * value + (c.toNat - '0'.toNat)) 0)
  else none

/-- The background that a terminal describes as `foreground;background`, by the numbers of its
sixteen colors; those from 8 to 255 are light ones, and anything else counts as dark. -/
def ofBackground (description : String) : Theme :=
  match ((Text.pieces ';' description.toList).getLast?.bind number?) with
  | some background => if 8 ≤ background ∧ background ≤ 255 then .light else .dark
  | none => .dark

end Theme

/-- How roles look. -/
structure Style where
  /-- Whether roles have colors. -/
  colored : Bool
  /-- The background. -/
  theme : Theme
deriving DecidableEq, Repr, Inhabited

namespace Style

/-- The style that choices mean on a terminal, or where output is no terminal; `background?` is what
the terminal tells of itself. -/
def ofChoices (color : ColorChoice) (theme : ThemeChoice) (terminal : Bool)
    (background? : Option String) : Style where
  colored := match color with
    | .always => true
    | .auto => terminal
    | .never => false
  theme := match theme with
    | .dark => .dark
    | .light => .light
    | .auto => background?.elim .dark Theme.ofBackground

/-- The escape code that starts a color. -/
def code (style : Style) (role : Role) : String :=
  if style.colored then
    let color := style.theme.color role
    "38;2;" ++ Nat.repr color.red ++ ";" ++ Nat.repr color.green ++ ";" ++ Nat.repr color.blue
  else "39"

/-- A text in the color of its role. -/
def paint (style : Style) (role : Role) (text : String) : String :=
  "\x1b[" ++ style.code role ++ "m" ++ text ++ "\x1b[39m"

end Style

end ApiWiring.Console
