import ApiWiring.Proofs.Json.Canonical

/-!
# What a canonical text tells

The canonical text of a value tells the value, up to the order of members. The first character tells
what kind of value it is. What comes after a text can be told from it: a string ends at its closing
quote, an integer before whatever is no digit, and an array or an object at its bracket, which comes
after the last of its parts in the place of a comma. So by induction over the value the parts are
told one by one, and with them the whole.
-/
namespace ApiWiring.Json

/-! ## The first character -/

/-- The kinds of values that the first character of a text tells. -/
inductive Shape where
  | null | truth | number | text | list | object
deriving DecidableEq

/-- The kind of a value. -/
def shape? : Json → Option Shape
  | .null => some .null
  | .bool _ => some .truth
  | .int _ | .float _ => some .number
  | .str _ => some .text
  | .arr _ => some .list
  | .obj _ => some .object
  | .unreadable => none

/-- The kind of value whose text begins with a character. -/
def shapeOf? (c : Char) : Option Shape :=
  if c = 'n' then some .null
  else if c = 't' ∨ c = 'f' then some .truth
  else if c = '"' then some .text
  else if c = '[' then some .list
  else if c = '{' then some .object
  else if c = '-' ∨ c.isDigit then some .number
  else none

/-- A digit begins a number. -/
theorem shapeOf?_of_isDigit {c : Char} (digit : c.isDigit = true) :
    shapeOf? c = some .number := by
  have other : ∀ d : Char, d.isDigit = false → c ≠ d := by
    rintro d none rfl
    rw [digit] at none
    cases none
  simp [shapeOf?, digit, other 'n' rfl, other 't' rfl, other 'f' rfl, other '"' rfl, other '[' rfl,
    other '{' rfl]

/-- The text of an exact value begins with a character that tells its kind. -/
theorem IsExact.textOf_eq_cons {json : Json} (exact_ : json.IsExact) :
    ∃ c rest, textOf json = c :: rest ∧ (shapeOf? c).isSome ∧ shapeOf? c = shape? json := by
  cases exact_ with
  | null => exact ⟨'n', _, rfl, rfl, rfl⟩
  | bool value =>
    cases value with
    | true => exact ⟨'t', _, rfl, rfl, rfl⟩
    | false => exact ⟨'f', _, rfl, rfl, rfl⟩
  | int value safe =>
    rw [textOf_int safe, integerText]
    obtain ⟨c, rest, written, digit⟩ := digits_eq_cons value.natAbs
    have shape := shapeOf?_of_isDigit digit
    split
    · exact ⟨'-', _, rfl, rfl, rfl⟩
    · exact ⟨c, rest, written, by rw [shape]; rfl, shape⟩
  | str value => exact ⟨'"', _, rfl, rfl, rfl⟩
  | arr items each =>
    rw [textOf_arr each]
    exact ⟨'[', _, rfl, rfl, rfl⟩
  | obj members _ each =>
    rw [textOf_obj each]
    exact ⟨'{', _, rfl, rfl, rfl⟩

/-- Exact values whose texts begin alike are of one kind. -/
theorem IsExact.shape?_eq {left right : Json} (exact_ : left.IsExact) (other : right.IsExact)
    {u v : List Char} (same : textOf left ++ u = textOf right ++ v) :
    shape? left = shape? right := by
  obtain ⟨c, rest, written, _, shape⟩ := exact_.textOf_eq_cons
  obtain ⟨d, later, spelled, _, form⟩ := other.textOf_eq_cons
  rw [written, spelled, List.cons_append, List.cons_append] at same
  rw [← shape, ← form, (List.cons.inj same).1]

/-! ## Texts with something after them -/

/-- A text that begins with something other than a digit does not begin with a digit. -/
theorem noDigitFirst_cons {c : Char} (other : c.isDigit = false) (rest : List Char) :
    NoDigitFirst (c :: rest) := by
  intro first given
  cases given
  exact other

/-- Texts with commas between them and a closing bracket behind them are told one by one, and so is
what comes after the bracket, if each text is told from what comes after it and none begins with
the bracket. -/
theorem commaSeparated_append_inj {α : Type} {text : α → List Char} {related : α → α → Prop}
    {close : Char} (noDigit : close.isDigit = false) (noComma : close ≠ ',') {xs ys : List α}
    {u v : List Char}
    (opens : ∀ x, x ∈ xs ∨ x ∈ ys → ∃ c rest, text x = c :: rest ∧ c ≠ close)
    (told : ∀ x ∈ xs, ∀ y ∈ ys, ∀ after later, NoDigitFirst after → NoDigitFirst later →
      text x ++ after = text y ++ later → related x y ∧ after = later)
    (same : commaSeparated (xs.map text) ++ close :: u =
      commaSeparated (ys.map text) ++ close :: v) :
    List.Forall₂ related xs ys ∧ u = v := by
  -- What comes after the first text decides whether there is a second one.
  let behind (others : List α) (after : List Char) : List Char :=
    match others with
    | [] => close :: after
    | other :: others => ',' :: (commaSeparated ((other :: others).map text) ++ close :: after)
  have opened : ∀ (x : α) (others : List α) (after : List Char),
      commaSeparated ((x :: others).map text) ++ close :: after =
        text x ++ behind others after := by
    intro x others after
    cases others with
    | nil => rfl
    | cons other others =>
      show (text x ++ ',' :: commaSeparated _) ++ _ = _
      rw [List.append_assoc, List.cons_append]
  have closing : ∀ (others : List α) (after : List Char), NoDigitFirst (behind others after) := by
    intro others after
    cases others with
    | nil => exact noDigitFirst_cons noDigit _
    | cons other others => exact noDigitFirst_cons rfl _
  induction xs generalizing ys with
  | nil =>
    cases ys with
    | nil => exact ⟨.nil, (List.cons.inj same).2⟩
    | cons y ys =>
      obtain ⟨c, rest, written, other⟩ := opens y (.inr (.head _))
      rw [opened, written] at same
      exact absurd (List.cons.inj same).1.symm other
  | cons x xs ih =>
    cases ys with
    | nil =>
      obtain ⟨c, rest, written, other⟩ := opens x (.inl (.head _))
      rw [opened, written] at same
      exact absurd (List.cons.inj same).1 other
    | cons y ys =>
      rw [opened, opened] at same
      obtain ⟨here, rest⟩ := told x (.head _) y (.head _) _ _ (closing xs u) (closing ys v) same
      cases xs with
      | nil =>
        cases ys with
        | nil => exact ⟨.cons here .nil, (List.cons.inj rest).2⟩
        | cons _ _ => exact absurd (List.cons.inj rest).1 noComma
      | cons _ _ =>
        cases ys with
        | nil => exact absurd (List.cons.inj rest).1.symm noComma
        | cons _ _ =>
          obtain ⟨later, after⟩ := ih
            (fun z listed => opens z (listed.imp (.tail _) (.tail _)))
            (fun first inXs second inYs => told first (.tail _ inXs) second (.tail _ inYs))
            (List.cons.inj rest).2
          exact ⟨.cons here later, after⟩

/-- Whether a value is told from what comes after its text, up to the order of members. -/
def Told (json : Json) : Prop :=
  ∀ other, other.IsExact → ∀ u v, NoDigitFirst u → NoDigitFirst v →
    textOf json ++ u = textOf other ++ v → Alike json other ∧ u = v

/-- A truth value is told. -/
theorem told_bool (value : Bool) : Told (.bool value) := by
  intro other exact_ u v _ _ same
  have shapes := (IsExact.bool value).shape?_eq exact_ same
  cases exact_ with
  | bool other =>
    cases value <;> cases other
    · exact ⟨.bool false, List.append_cancel_left same⟩
    · exact absurd (List.cons.inj same).1 (by decide)
    · exact absurd (List.cons.inj same).1 (by decide)
    · exact ⟨.bool true, List.append_cancel_left same⟩
  | _ => cases shapes

/-- An integer is told. -/
theorem told_int {value : Int} (safe : value.natAbs ≤ greatestSafeInteger) :
    Told (.int value) := by
  intro other exact_ u v noDigit noOther same
  have shapes := (IsExact.int value safe).shape?_eq exact_ same
  cases exact_ with
  | int other safeOther =>
    rw [textOf_int safe, textOf_int safeOther] at same
    obtain ⟨rfl, rest⟩ := integerText_append_inj noDigit noOther same
    exact ⟨.int value, rest⟩
  | _ => cases shapes

/-- A string is told. -/
theorem told_str (value : String) : Told (.str value) := by
  intro other exact_ u v _ _ same
  have shapes := (IsExact.str value).shape?_eq exact_ same
  cases exact_ with
  | str other =>
    obtain ⟨rfl, rest⟩ := quoted_append_inj same
    exact ⟨.str value, rest⟩
  | _ => cases shapes

/-- An array is told when its items are. -/
theorem told_arr {items : List Json} (each : ∀ item ∈ items, item.IsExact)
    (told : ∀ item ∈ items, item.Told) : Told (.arr items) := by
  intro other exact_ u v _ _ same
  have shapes := (IsExact.arr items each).shape?_eq exact_ same
  cases exact_ with
  | arr others eachOther =>
    rw [textOf_arr each, textOf_arr eachOther] at same
    simp only [List.cons_append, List.append_assoc, List.nil_append, List.cons.injEq,
      true_and] at same
    have opens : ∀ item, item ∈ items ∨ item ∈ others →
        ∃ c rest, textOf item = c :: rest ∧ c ≠ ']' := by
      intro item listed
      obtain ⟨c, rest, written, some, _⟩ :=
        (listed.elim (each item) (eachOther item)).textOf_eq_cons
      refine ⟨c, rest, written, ?_⟩
      rintro rfl
      cases some
    obtain ⟨paired, rest⟩ := commaSeparated_append_inj rfl (by decide) opens
      (fun item inItems other inOthers => told item inItems other (eachOther other inOthers)) same
    exact ⟨.arr paired, rest⟩
  | _ => cases shapes

/-- A member is told, its key and its value, when its value is. -/
theorem memberText_append_inj {member other : String × Json} (told : member.2.Told)
    (exact_ : other.2.IsExact) {u v : List Char} (noDigit : NoDigitFirst u)
    (noOther : NoDigitFirst v) (same : memberText member ++ u = memberText other ++ v) :
    (member.1 = other.1 ∧ Alike member.2 other.2) ∧ u = v := by
  simp only [memberText, List.append_assoc, List.cons_append] at same
  obtain ⟨key, values⟩ := quoted_append_inj same
  obtain ⟨alike, rest⟩ := told other.2 exact_ u v noDigit noOther (List.cons.inj values).2
  exact ⟨⟨key, alike⟩, rest⟩

/-- An object is told when the values of its members are. -/
theorem told_obj {members : List (String × Json)} (distinct : (members.map (·.1)).Nodup)
    (each : ∀ member ∈ members, member.2.IsExact) (told : ∀ member ∈ members, member.2.Told) :
    Told (.obj members) := by
  intro other exact_ u v _ _ same
  have shapes := (IsExact.obj members distinct each).shape?_eq exact_ same
  cases exact_ with
  | obj others distinctOthers eachOther =>
    rw [textOf_obj each, textOf_obj eachOther] at same
    simp only [List.cons_append, List.append_assoc, List.nil_append, List.cons.injEq,
      true_and] at same
    have listed : ∀ {list : List (String × Json)} {member : String × Json},
        member ∈ canonicalOrder list → member ∈ list :=
      fun {list} _ => (canonicalOrder_perm list).mem_iff.mp
    obtain ⟨paired, rest⟩ := commaSeparated_append_inj rfl (by decide)
      (fun member _ => ⟨'"', _, rfl, by decide⟩)
      (fun member inMembers other inOthers _ _ ends endsToo equal =>
        memberText_append_inj (told member (listed inMembers))
          (eachOther other (listed inOthers)) ends endsToo equal) same
    have keys : ∀ {list : List (String × Json)}, (list.map (·.1)).Nodup →
        ((canonicalOrder list).map (·.1)).Nodup := fun {list} apart =>
      ((canonicalOrder_perm list).map _).nodup_iff.mpr apart
    have agree : Agree Alike members others :=
      (agree_of_forall₂ paired).of_perm (canonicalOrder_perm members) (canonicalOrder_perm others)
        (keys distinct) (keys distinctOthers)
    exact ⟨.obj agree, rest⟩
  | _ => cases shapes

/-- Every exact value is told. -/
theorem IsExact.told {json : Json} (exact_ : json.IsExact) : Told json := by
  induction exact_ with
  | null =>
    intro other exact_ u v _ _ same
    have shapes := IsExact.null.shape?_eq exact_ same
    cases exact_ with
    | null => exact ⟨.null, List.append_cancel_left same⟩
    | _ => cases shapes
  | bool value => exact told_bool value
  | int value safe => exact told_int safe
  | str value => exact told_str value
  | arr items each ih => exact told_arr each ih
  | obj members distinct each ih => exact told_obj distinct each ih

/-- Exact values have the same text exactly when they are alike. -/
theorem textOf_eq_iff {left right : Json} (exact_ : left.IsExact) (other : right.IsExact) :
    textOf left = textOf right ↔ Alike left right := by
  refine ⟨fun same => ?_, textOf_eq_of_alike exact_ other⟩
  have nothing : NoDigitFirst [] := fun _ given => nomatch given
  have whole : textOf left ++ [] = textOf right ++ [] := congrArg (· ++ []) same
  exact (exact_.told right other [] [] nothing nothing whole).1

/-- An exact value is alike to itself. -/
theorem IsExact.alike_self {json : Json} (exact_ : json.IsExact) : Alike json json :=
  (textOf_eq_iff exact_ exact_).mp rfl

end ApiWiring.Json
