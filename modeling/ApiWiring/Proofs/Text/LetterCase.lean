import ApiWiring.Text.LetterCase

/-!
# Making letters small

Making the capitals of a text small changes letters into letters: every other character stays where
it is, and none comes in.
-/
namespace ApiWiring.Text

/-- Making a letter small makes no character that is not a letter. -/
theorem toLower_eq_iff {fixed : Char} (other : fixed.isAlpha = false) (c : Char) :
    c.toLower = fixed ↔ c = fixed := by
  have cases : fixed.isUpper = false ∧ fixed.isLower = false := Bool.or_eq_false_iff.mp other
  unfold Char.toLower
  split
  · rename_i capital
    refine iff_of_false (fun same => ?_) ?_
    · have bounds : 65 ≤ c.val.toNat ∧ c.val.toNat ≤ 90 := by
        simp only [UInt32.le_iff_toNat_le] at capital
        exact capital
      have shifted : fixed.val.toNat = c.val.toNat + 32 := by
        have code : fixed.val = c.val + 32 := (congrArg Char.val same).symm
        have step : (32 : UInt32).toNat = 32 := rfl
        rw [code, UInt32.toNat_add, step, Nat.mod_eq_of_lt (by omega)]
      have letter : 97 ≤ fixed.val.toNat ∧ fixed.val.toNat ≤ 122 := by omega
      have small : fixed.isLower = true := by
        have within : fixed.val ≥ 'a'.val ∧ fixed.val ≤ 'z'.val :=
          letter.imp UInt32.le_iff_toNat_le.mpr UInt32.le_iff_toNat_le.mpr
        exact Bool.and_eq_true_iff.mpr (within.imp decide_eq_true decide_eq_true)
      exact Bool.false_ne_true (cases.2.symm.trans small)
    · rintro rfl
      have large : c.isUpper = true := decide_eq_true capital
      exact Bool.false_ne_true (cases.1.symm.trans large)
  · rfl

/-- Texts that are equal ignoring case have the same characters other than letters. -/
theorem mem_iff_of_equalIgnoringCase {fixed : Char} (other : fixed.isAlpha = false)
    {left right : String} (same : EqualIgnoringCase left right) :
    fixed ∈ left.toList ↔ fixed ∈ right.toList := by
  have folded : ∀ text : String, fixed ∈ text.toList ↔ fixed ∈ foldCase text := by
    intro text
    simp only [foldCase, List.mem_map, toLower_eq_iff other, exists_eq_right]
  rw [folded, folded, same]

end ApiWiring.Text
