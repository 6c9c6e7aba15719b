import Mathlib.Tactic.SplitIfs
import TableLayout.Proofs.Text.Bytes

/-!
# The order of texts and of their bytes

Texts are in the order of their characters, which is that of their bytes: the first byte of a character tells how many
there are, and more of them stand for greater characters.
-/

namespace TableLayout.Text

open String (utf8EncodeChar)

theorem cons_lt_cons {a b : UInt8} {r r' : List UInt8} :
    a :: r < b :: r' ↔ a.toNat < b.toNat ∨ a.toNat = b.toNat ∧ r < r' := by
  rw [List.cons_lt_cons_iff, UInt8.lt_iff_toNat_lt, ← UInt8.toNat_inj]

theorem utf8EncodeChar_append_lt {c d : Char} (h : c < d) (r r' : List UInt8) :
    utf8EncodeChar c ++ r < utf8EncodeChar d ++ r' := by
  have hlt : c.val.toNat < d.val.toNat := h
  have hmax : d.val.toNat < 0x110000 := by
    have := d.valid
    simp only [UInt32.isValidChar, Nat.isValidChar] at this
    omega
  -- the digits to base 64 are compared one by one
  have hdigit : ∀ n m : Nat, n ≤ m → n / 64 < m / 64 ∨ n / 64 = m / 64 ∧ n % 64 ≤ m % 64 := by omega
  have hlast := hdigit _ _ (Nat.le_of_lt hlt)
  have hmiddle := hdigit (c.val.toNat / 64) (d.val.toNat / 64) (Nat.div_le_div_right (Nat.le_of_lt hlt))
  have hfirst := hdigit (c.val.toNat / 64 / 64) (d.val.toNat / 64 / 64)
    (Nat.div_le_div_right (Nat.div_le_div_right (Nat.le_of_lt hlt)))
  simp only [Nat.div_div_eq_div_mul, Nat.reduceMul] at hmiddle hfirst
  unfold utf8EncodeChar
  dsimp only
  split_ifs <;>
    simp (disch := omega) only [List.cons_append, cons_lt_cons, UInt8.toNat_ofNat', Nat.reducePow,
      Nat.mod_eq_of_lt (b := 256),
      Nat.mod_eq_of_lt (b := 8)] <;> omega

theorem flatMap_utf8EncodeChar_lt {s t : List Char} (h : s < t) :
    s.flatMap utf8EncodeChar < t.flatMap utf8EncodeChar := by
  induction s generalizing t with
  | nil =>
    cases t with
    | nil => exact absurd h (List.lt_irrefl _)
    | cons d t =>
      obtain ⟨b, bytes, hd⟩ := List.exists_cons_of_ne_nil (String.utf8EncodeChar_ne_nil (c := d))
      rw [List.flatMap_nil, List.flatMap_cons, hd]
      exact List.nil_lt_cons _ _
  | cons c s ih =>
    cases t with
    | nil => exact absurd h (List.not_lt_nil _)
    | cons d t =>
      rw [List.flatMap_cons, List.flatMap_cons]
      rcases List.cons_lt_cons_iff.mp h with hlt | ⟨rfl, hlt⟩
      · exact utf8EncodeChar_append_lt hlt _ _
      · exact List.append_left_lt (ih hlt)

theorem bytesOf_eq (s : String) : bytesOf s = s.toList.flatMap utf8EncodeChar := by
  unfold bytesOf
  rw [← String.utf8Encode_toList]
  exact List.toList_data_toByteArray

theorem bytesOf_lt {s t : String} (h : s < t) : bytesOf s < bytesOf t := by
  rw [bytesOf_eq, bytesOf_eq]
  exact flatMap_utf8EncodeChar_lt (String.lt_iff.mp h)

end TableLayout.Text
