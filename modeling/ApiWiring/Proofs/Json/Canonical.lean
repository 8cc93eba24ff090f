import ApiWiring.Proofs.Json.Alike
import ApiWiring.Proofs.Json.Tokens
import Mathlib.Data.List.Lex

/-!
# Canonical texts in any order of members

A value whose numbers are integers within the safe range has a canonical text, put together from the
texts of its parts. Members are written in one order, that of the code units of their keys.
Different keys have different code units, so no two members tie, and values that differ in the order
of members only have the same text.
-/
namespace ApiWiring.Json

/-! ## Values with a canonical text -/

/-- Whether all numbers in a value are integers with a canonical text. -/
inductive OnlySafeIntegers : Json → Prop where
  | null : OnlySafeIntegers .null
  | bool (value : Bool) : OnlySafeIntegers (.bool value)
  | int (value : Int) (safe : value.natAbs ≤ greatestSafeInteger) : OnlySafeIntegers (.int value)
  | str (value : String) : OnlySafeIntegers (.str value)
  | arr (items : List Json) (each : ∀ item ∈ items, OnlySafeIntegers item) :
    OnlySafeIntegers (.arr items)
  | obj (members : List (String × Json)) (each : ∀ member ∈ members, OnlySafeIntegers member.2) :
    OnlySafeIntegers (.obj members)

/-- Whether JSON is a value as a whole with safe integers for numbers: what its canonical text tells
exactly. -/
inductive IsExact : Json → Prop where
  | null : IsExact .null
  | bool (value : Bool) : IsExact (.bool value)
  | int (value : Int) (safe : value.natAbs ≤ greatestSafeInteger) : IsExact (.int value)
  | str (value : String) : IsExact (.str value)
  | arr (items : List Json) (each : ∀ item ∈ items, IsExact item) : IsExact (.arr items)
  | obj (members : List (String × Json)) (distinct : (members.map (·.1)).Nodup)
    (each : ∀ member ∈ members, IsExact member.2) : IsExact (.obj members)

/-- A value as a whole with safe integers for numbers is exact. -/
theorem IsValue.isExact {json : Json} (isValue : json.IsValue) (safe : json.OnlySafeIntegers) :
    json.IsExact := by
  induction isValue with
  | null => exact .null
  | bool value => exact .bool value
  | int value =>
    cases safe with
    | int _ safe => exact .int value safe
  | float value => cases safe
  | str value => exact .str value
  | arr items _ ih =>
    cases safe with
    | arr _ safe => exact .arr items fun item listed => ih item listed (safe item listed)
  | obj members distinct _ ih =>
    cases safe with
    | obj _ safe =>
      exact .obj members distinct fun member listed => ih member listed (safe member listed)

/-- The canonical text of an exact value; empty for what has none. -/
def textOf (json : Json) : List Char := (canonicalText? json).getD []

/-- The canonical text of a member: its key, a colon and its value. -/
def memberText (member : String × Json) : List Char := quoted member.1 ++ ':' :: textOf member.2

/-- Items with a canonical text each have them one by one. -/
theorem canonicalItems?_of_each {items : List Json}
    (each : ∀ item ∈ items, canonicalText? item = some (textOf item)) :
    canonicalItems? items = some (items.map textOf) := by
  induction items with
  | nil => rfl
  | cons item rest ih =>
    obtain ⟨here, later⟩ := List.forall_mem_cons.mp each
    rw [canonicalItems?, here, ih later]
    rfl

/-- Members with a canonical text each have them one by one. -/
theorem canonicalMembers?_of_each {members : List (String × Json)}
    (each : ∀ member ∈ members, canonicalText? member.2 = some (textOf member.2)) :
    canonicalMembers? members = some (members.map fun member => (member.1, textOf member.2)) := by
  induction members with
  | nil => rfl
  | cons member rest ih =>
    obtain ⟨here, later⟩ := List.forall_mem_cons.mp each
    rw [canonicalMembers?, here, ih later]
    rfl

/-- Members are put in order before or after all values are changed. -/
theorem canonicalOrder_map {α β : Type} (change : α → β) (members : List (String × α)) :
    canonicalOrder (members.map fun member => (member.1, change member.2)) =
      (canonicalOrder members).map fun member => (member.1, change member.2) := by
  refine (List.map_mergeSort ?_).symm
  exact fun _ _ _ _ => rfl

/-- The canonical text of an array whose items have one each. -/
theorem canonicalText?_arr {items : List Json}
    (each : ∀ item ∈ items, canonicalText? item = some (textOf item)) :
    canonicalText? (.arr items) =
      some ('[' :: commaSeparated (items.map textOf) ++ [']']) := by
  rw [canonicalText?, canonicalItems?_of_each each]
  rfl

/-- The canonical text of an object whose members have one each. -/
theorem canonicalText?_obj {members : List (String × Json)}
    (each : ∀ member ∈ members, canonicalText? member.2 = some (textOf member.2)) :
    canonicalText? (.obj members) =
      some ('{' :: commaSeparated ((canonicalOrder members).map memberText) ++ ['}']) := by
  rw [canonicalText?, canonicalMembers?_of_each each]
  simp only [Option.bind_eq_bind, Option.bind_some, canonicalOrder_map, List.map_map]
  rfl

/-- An exact value has a canonical text. -/
theorem IsExact.canonicalText?_eq {json : Json} (exact_ : json.IsExact) :
    canonicalText? json = some (textOf json) := by
  have present : ∀ {value : Json} {text : List Char}, canonicalText? value = some text →
      canonicalText? value = some (textOf value) := by
    intro value text found
    rw [textOf, found, Option.getD_some]
  induction exact_ with
  | null | bool | str => exact present rfl
  | int value safe => exact present (if_pos safe)
  | arr items _ ih => exact present (canonicalText?_arr ih)
  | obj members _ _ ih => exact present (canonicalText?_obj ih)

/-- The text of an integer in the safe range. -/
theorem textOf_int {value : Int} (safe : value.natAbs ≤ greatestSafeInteger) :
    textOf (.int value) = integerText value := by
  have found : canonicalText? (.int value) = some (integerText value) := if_pos safe
  rw [textOf, found, Option.getD_some]

/-- The text of an array of exact items. -/
theorem textOf_arr {items : List Json} (each : ∀ item ∈ items, item.IsExact) :
    textOf (.arr items) = '[' :: commaSeparated (items.map textOf) ++ [']'] := by
  rw [textOf, canonicalText?_arr fun item listed => (each item listed).canonicalText?_eq,
    Option.getD_some]

/-- The text of an object of exact members. -/
theorem textOf_obj {members : List (String × Json)}
    (each : ∀ member ∈ members, member.2.IsExact) :
    textOf (.obj members) =
      '{' :: commaSeparated ((canonicalOrder members).map memberText) ++ ['}'] := by
  rw [textOf, canonicalText?_obj fun member listed => (each member listed).canonicalText?_eq,
    Option.getD_some]

/-! ## The order of members -/

/-- Putting members in order loses none and adds none. -/
theorem canonicalOrder_perm {α : Type} (members : List (String × α)) :
    (canonicalOrder members).Perm members := List.mergeSort_perm _ _

/-- Members are put in one order, whatever order they come in, if their keys are distinct. -/
theorem canonicalOrder_eq_of_perm {α : Type} {members others : List (String × α)}
    (same : members.Perm others) (distinct : (members.map (·.1)).Nodup) :
    canonicalOrder members = canonicalOrder others := by
  have sorted : ∀ list : List (String × α),
      (canonicalOrder list).Pairwise fun left right => canonicalBefore left right := by
    refine List.pairwise_mergeSort (fun first second third before after => ?_)
      fun first second => ?_
    · simp only [canonicalBefore, Bool.not_eq_true', decide_eq_false_iff_not, not_lt] at *
      exact le_trans before after
    · simp only [canonicalBefore, Bool.or_eq_true, Bool.not_eq_true', decide_eq_false_iff_not,
        not_lt]
      exact le_total _ _
  have reordered : (canonicalOrder members).Perm (canonicalOrder others) :=
    (canonicalOrder_perm members).trans (same.trans (canonicalOrder_perm others).symm)
  refine reordered.eq_of_pairwise (fun left right listed inOther before after => ?_)
    (sorted members) (sorted others)
  -- Members that go before each other have one key, and a key has one member.
  simp only [canonicalBefore, Bool.not_eq_true', decide_eq_false_iff_not, not_lt] at before after
  have key : left.1 = right.1 := keyUnits_inj (le_antisymm before after)
  have here : (left.1, left.2) ∈ members := (canonicalOrder_perm members).mem_iff.mp listed
  have there : (left.1, right.2) ∈ members := by
    rw [key]
    exact same.mem_iff.mpr ((canonicalOrder_perm others).mem_iff.mp inOther)
  rw [mem_iff_lookup distinct] at here there
  exact Prod.ext key (Option.some.inj (here.symm.trans there))

/-- The texts of members with distinct keys come in one order, whatever order the members are in, if
they agree on the texts of their values. -/
theorem memberTexts_eq_of_agree {members others : List (String × Json)}
    (distinct : (members.map (·.1)).Nodup) (distinctOthers : (others.map (·.1)).Nodup)
    (agree : Agree (fun left right => textOf left = textOf right) members others) :
    (canonicalOrder members).map memberText = (canonicalOrder others).map memberText := by
  let withText (member : String × Json) : String × List Char := (member.1, textOf member.2)
  let joined (member : String × List Char) : List Char := quoted member.1 ++ ':' :: member.2
  have ordered : ∀ list : List (String × Json), (canonicalOrder list).map memberText =
      (canonicalOrder (list.map withText)).map joined := by
    intro list
    rw [canonicalOrder_map, List.map_map]
    rfl
  have keys : ∀ list : List (String × Json), (list.map withText).map (·.1) = list.map (·.1) := by
    intro list
    rw [List.map_map]
    rfl
  have same : (members.map withText).Perm (others.map withText) := by
    refine perm_of_lookup ?_ ?_ (agree_eq_iff.mp ((agree_map_iff textOf textOf).mpr agree))
    · rwa [keys]
    · rwa [keys]
  rw [ordered, ordered, canonicalOrder_eq_of_perm same (by rwa [keys])]

/-- Exact values that are alike have the same text. -/
theorem textOf_eq_of_alike {left right : Json} (exact_ : left.IsExact) (other : right.IsExact)
    (alike : Alike left right) : textOf left = textOf right := by
  induction exact_ generalizing right with
  | null | bool | int | str =>
    cases alike
    rfl
  | arr items each ih =>
    cases alike with
    | @arr _ others paired =>
      cases other with
      | arr _ eachOther =>
        have texts : items.map textOf = others.map textOf := by
          rw [← List.forall₂_eq_eq_eq, List.forall₂_map_left_iff, List.forall₂_map_right_iff]
          obtain ⟨length, pairs⟩ := List.forall₂_iff_zip.mp paired
          refine List.forall₂_iff_zip.mpr ⟨length, fun {item other} listed => ?_⟩
          obtain ⟨inItems, inOthers⟩ := List.of_mem_zip listed
          exact ih item inItems (eachOther other inOthers) (pairs listed)
        rw [textOf_arr each, textOf_arr eachOther, texts]
  | obj members distinct each ih =>
    cases alike with
    | @obj _ others agree =>
      cases other with
      | obj _ distinctOthers eachOther =>
        have texts : Agree (fun left right => textOf left = textOf right) members others := by
          refine Agree.imp agree fun key value found here there alike => ?_
          have listed := (mem_iff_lookup distinct).mpr here
          have inOthers := (mem_iff_lookup distinctOthers).mpr there
          exact ih _ listed (eachOther _ inOthers) alike
        rw [textOf_obj each, textOf_obj eachOther,
          memberTexts_eq_of_agree distinct distinctOthers texts]

end ApiWiring.Json
