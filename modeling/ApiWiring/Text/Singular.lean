import ApiWiring.Text.WordCharacter

/-!
# Singular forms

The singular of a word is found in three places, in this order: words without a singular stay,
irregular words have theirs in a table, and the rest goes by endings. A rule for endings looks at
the end of the word for a `stem` followed by a plural ending, extends the stem to the left over the
run of word characters before it, drops what stands in front of that run, and puts its own ending
behind the stem. Rules that are to hold of a whole word are anchored. The rules are tried from the
last to the first.
-/
namespace ApiWiring.Text.Singular

/-- What one character of a stem may be. -/
inductive Letter where
  /-- This character. -/
  | is (c : Char)
  /-- Any character but these. -/
  | noneOf (excluded : List Char)
deriving Repr

/-- Whether a character is as a stem asks. -/
def Letter.accepts : Letter → Char → Bool
  | .is expected, c => c == expected
  | .noneOf excluded, c => !excluded.contains c

/-- Where a rule applies. -/
inductive Reach where
  /-- At the end of a word, the stem extended to the left over word characters. -/
  | ending
  /-- At a whole text. -/
  | whole
  /-- At the beginning of a text, whatever follows. -/
  | opening
deriving Repr, DecidableEq

/-- One way from a plural to its singular. -/
structure Rule where
  /-- Where the rule applies. -/
  reach : Reach
  /-- The stems, each a list of letters; the empty stem is allowed. -/
  stems : List (List Letter)
  /-- The plural endings that may follow a stem. -/
  plural : List String
  /-- The ending that a stem gets in the singular. -/
  singular : String
deriving Repr

/-- Whether the text begins with the letters in order. -/
def opensWith : List Letter → List Char → Bool
  | [], _ => true
  | _ :: _, [] => false
  | letter :: letters, c :: rest => letter.accepts c && opensWith letters rest

/-- A stem that is one given text. -/
def literal (text : String) : List Letter := text.toList.map .is

/-- The stem with the run of word characters before it, when the text ends with the stem and the
plural ending. The text is given backwards. -/
def extendedStem? (stem : List Letter) (plural : List Char) (backwards : List Char) :
    Option (List Char) :=
  if plural.reverse.isPrefixOf backwards then
    let before := backwards.drop plural.length
    if opensWith stem.reverse before then
      let run := (before.drop stem.length).takeWhile isWordCharacter
      some (run.reverse ++ (before.take stem.length).reverse)
    else none
  else none

/-- The stem a rule finds in a text by one of its stems and one of its plural endings. -/
def Rule.stemBy? (rule : Rule) (text : List Char) (stem : List Letter) (plural : List Char) :
    Option (List Char) :=
  match rule.reach with
  | .ending => extendedStem? stem plural text.reverse
  | .whole =>
    if opensWith stem text && text.drop stem.length == plural then some (text.take stem.length)
    else none
  | .opening =>
    if opensWith stem text && plural.isPrefixOf (text.drop stem.length) then
      some (text.take stem.length)
    else none

/-- The mark of a placeholder. -/
def placeholderMark : Char := '$'

/-- Whether a character may stand in the name of a placeholder. -/
def isPlaceholderCharacter (c : Char) : Bool := c.isAlphanum || c == '_'

/-- A text without its placeholders, each a mark and a name behind it. Nothing is ever put in their
place. A mark without a name behind it stays. -/
def dropPlaceholders (named : Bool) : List Char → List Char
  | [] => []
  | c :: rest =>
    if named && isPlaceholderCharacter c then dropPlaceholders true rest
    else if c == placeholderMark && rest.head?.any isPlaceholderCharacter then
      dropPlaceholders true rest
    else c :: dropPlaceholders false rest

/-- The singular that a rule gives to a text, if the rule applies. Stem and ending together are read
as a pattern with placeholders, so a dollar sign at the end of the stem goes, and the ending with
it. -/
def Rule.singular? (rule : Rule) (text : List Char) : Option (List Char) :=
  rule.stems.findSome? fun stem =>
    rule.plural.findSome? fun plural =>
      (rule.stemBy? text stem plural.toList).map fun found =>
        dropPlaceholders false (found ++ rule.singular.toList)

/-- A rule for words that end with one of the stems and one of the plural endings. -/
def ending (stems : List (List Letter)) (plural : List String) (singular : String) : Rule :=
  ⟨.ending, stems, plural, singular⟩

/-- The rules for endings; a later rule goes before an earlier one. -/
def rules : List Rule := [
  ending [[]] ["s"] "",
  ending [literal "ss"] [""] "",
  ending [literal "n"] ["ews"] "ews",
  ending [literal "o"] ["es"] "",
  ending [literal "t", literal "i"] ["a"] "um",
  ending (["analy", "ba", "diagno", "parenthe", "progno", "synop", "the"].map literal)
    ["sis", "ses"] "sis",
  ⟨.whole, [literal "analy"], ["sis", "ses"], "sis"⟩,
  ending [[.noneOf ['f']]] ["ves"] "fe",
  ending [literal "hive"] ["s"] "",
  ending [literal "tive"] ["s"] "",
  ending [literal "l", literal "r"] ["ves"] "f",
  ending [[.noneOf ['a', 'e', 'i', 'o', 'u', 'y']], literal "qu"] ["ies"] "y",
  ending [literal "s"] ["eries"] "eries",
  ending [literal "m"] ["ovies"] "ovie",
  ending (["x", "ch", "ss", "sh"].map literal) ["es"] "",
  ending [literal "m", literal "l"] ["ice"] "ouse",
  ending [literal "bus"] ["es", ""] "",
  ending [literal "shoe"] ["s"] "",
  ending [literal "cris", literal "test"] ["is", "es"] "is",
  ⟨.whole, [literal "a"], ["xis", "xes"], "xis"⟩,
  ending [literal "octop", literal "vir"] ["us", "i"] "us",
  ending [literal "alias", literal "status"] ["es", ""] "",
  ⟨.opening, [literal "ox"], ["en"], ""⟩,
  ending [literal "vert", literal "ind"] ["ices"] "ex",
  ending [literal "matr"] ["ices"] "ix",
  ending [literal "quiz"] ["zes"] "",
  ending [literal "database"] ["s"] ""]

/-- Plurals with a singular of their own. -/
def irregular : List (String × String) := [
  ("oxen", "ox"), ("boxes", "box"), ("men", "man"), ("women", "woman"), ("dice", "die"),
  ("yeses", "yes"), ("feet", "foot"), ("eaves", "eave"), ("geese", "goose"), ("teeth", "tooth"),
  ("quizzes", "quiz")]

/-- Words that are their own singular. -/
def uncountable : List String := [
  "accommodation", "adulthood", "advertising", "advice", "aggression", "aid", "air", "aircraft",
  "alcohol", "anger", "applause", "arithmetic", "assistance", "athletics", "bacon", "baggage",
  "beef", "biology", "blood", "botany", "bread", "butter", "carbon", "cardboard", "cash", "chalk",
  "chaos", "chess", "crossroads", "countryside", "dancing", "deer", "dignity", "dirt", "dust",
  "economics", "education", "electricity", "engineering", "enjoyment", "envy", "equipment",
  "ethics", "evidence", "evolution", "fame", "fiction", "flour", "flu", "food", "fuel", "fun",
  "furniture", "gallows", "garbage", "garlic", "genetics", "gold", "golf", "gossip", "grammar",
  "gratitude", "grief", "guilt", "gymnastics", "happiness", "hardware", "harm", "hate", "hatred",
  "health", "heat", "help", "homework", "honesty", "honey", "hospitality", "housework", "humour",
  "hunger", "hydrogen", "ice", "importance", "inflation", "information", "innocence", "iron",
  "irony", "jam", "jewelry", "judo", "karate", "knowledge", "lack", "laughter", "lava", "leather",
  "leisure", "lightning", "linguine", "linguini", "linguistics", "literature", "litter",
  "livestock", "logic", "loneliness", "luck", "luggage", "macaroni", "machinery", "magic",
  "management", "mankind", "marble", "mathematics", "mayonnaise", "measles", "methane", "milk",
  "money", "mud", "music", "mumps", "nature", "news", "nitrogen", "nonsense", "nurture",
  "nutrition", "obedience", "obesity", "oxygen", "pasta", "patience", "physics", "poetry",
  "pollution", "poverty", "pride", "psychology", "publicity", "punctuation", "quartz", "racism",
  "relaxation", "reliability", "research", "respect", "revenge", "rice", "rubbish", "rum",
  "safety", "scenery", "seafood", "seaside", "series", "shame", "sheep", "shopping", "sleep",
  "smoke", "smoking", "snow", "soap", "software", "soil", "spaghetti", "species", "steam",
  "stuff", "stupidity", "sunshine", "symmetry", "tennis", "thirst", "thunder", "timber",
  "traffic", "transportation", "trust", "underwear", "unemployment", "unity", "validity", "veal",
  "vegetation", "vegetarianism", "vengeance", "violence", "vitality", "warmth", "wealth",
  "weather", "welfare", "wheat", "wildlife", "wisdom", "yoga", "zinc", "zoology"]

/-- The singular of a word; a word that no rule knows is its own. -/
def ofWord (word : String) : String :=
  if uncountable.contains word then word
  else match irregular.lookup word with
    | some singular => singular
    | none => match rules.reverse.findSome? (·.singular? word.toList) with
      | some singular => String.ofList singular
      | none => word

end ApiWiring.Text.Singular
