import Mathlib.Data.List.Forall2
import TableLayout.Text.Case

/-!
# Texts that differ in the case of ASCII letters

Two texts are the same in ASCII lower case exactly when they are the same character by character, up to the form of
the ASCII letters. No other letter has two forms here. In ASCII a character has one capital, which is no small letter.
-/

namespace TableLayout.Text

def IsCapitalOf (c d : Char) : Prop := 'A' ≤ c ∧ c ≤ 'Z' ∧ d.toNat = c.toNat + 32

/-- One character, or the two forms of one ASCII letter. -/
def SameLetter (c d : Char) : Prop := c = d ∨ IsCapitalOf c d ∨ IsCapitalOf d c

instance (c d : Char) : Decidable (IsCapitalOf c d) := inferInstanceAs (Decidable (_ ∧ _))

instance (c d : Char) : Decidable (SameLetter c d) := inferInstanceAs (Decidable (_ ∨ _))

theorem isCapitalOf_iff {c d : Char} : IsCapitalOf c d ↔ 65 ≤ c.toNat ∧ c.toNat ≤ 90 ∧ d.toNat = c.toNat + 32 := Iff.rfl

theorem toNat_toLower (c : Char) :
    c.toLower.toNat = if 65 ≤ c.toNat ∧ c.toNat ≤ 90 then c.toNat + 32 else c.toNat := by
  have hcapital : (c.val ≥ 'A'.val ∧ c.val ≤ 'Z'.val) ↔ 65 ≤ c.toNat ∧ c.toNat ≤ 90 := Iff.rfl
  unfold Char.toLower
  split
  · next h =>
    rw [if_pos (hcapital.mp h)]
    have hsum : (c.val + ('a'.val - 'A'.val)).toNat = (c.val.toNat + 32) % 2 ^ 32 := UInt32.toNat_add ..
    have hle : c.val.toNat ≤ 90 := (hcapital.mp h).2
    show (c.val + ('a'.val - 'A'.val)).toNat = c.val.toNat + 32
    rw [hsum]
    omega
  · next h => rw [if_neg fun h' => h (hcapital.mpr h')]

theorem toLower_eq_iff {c d : Char} : c.toLower = d.toLower ↔ SameLetter c d := by
  unfold SameLetter
  rw [← Char.toNat_inj, ← Char.toNat_inj, toNat_toLower, toNat_toLower, isCapitalOf_iff, isCapitalOf_iff]
  split_ifs <;> omega

theorem toLower_eq_mark {c mark : Char} (h : mark.toNat < 65 ∨ 90 < mark.toNat ∧ mark.toNat < 97) :
    c.toLower = mark ↔ c = mark := by
  rw [← Char.toNat_inj, ← Char.toNat_inj, toNat_toLower]
  split_ifs <;> omega

theorem asciiLower_eq_iff {s t : List Char} : asciiLower s = asciiLower t ↔ List.Forall₂ SameLetter s t := by
  unfold asciiLower
  rw [← List.forall₂_eq_eq_eq, List.forall₂_map_left_iff, List.forall₂_map_right_iff]
  simp only [toLower_eq_iff]

/-! ## Capitals -/

section
variable {c : Char} (h : c.toNat < 0x80)
include h

theorem upper_of_ascii : upper c = [c.toUpper] := if_pos h

theorem isLower_iff_of_ascii : isLower c = true ↔ 97 ≤ c.toNat ∧ c.toNat ≤ 122 := by
  rw [isLower, if_pos h]
  unfold Char.isLower
  rw [Bool.and_eq_true, decide_eq_true_iff, decide_eq_true_iff]
  exact Iff.rfl

theorem settled_toUpper : isLower c.toUpper = false ∧ upper c.toUpper = [c.toUpper] := by
  have hascii : c.toUpper.toNat < 0x80 := by
    rw [toNat_toUpper]
    split_ifs <;> omega
  have hsmall : ¬(97 ≤ c.toUpper.toNat ∧ c.toUpper.toNat ≤ 122) := by
    rw [toNat_toUpper]
    split_ifs <;> omega
  constructor
  · rw [← Bool.not_eq_true, isLower_iff_of_ascii hascii]
    exact hsmall
  · rw [upper_of_ascii hascii, List.singleton_inj, ← Char.toNat_inj, toNat_toUpper, if_neg hsmall]

end

end TableLayout.Text
