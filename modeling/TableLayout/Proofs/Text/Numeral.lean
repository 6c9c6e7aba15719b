import Std.Data.String.ToNat
import TableLayout.Proofs.Text.Trimming
import TableLayout.Text.Numeral

/-!
# Numbers as text

The digits of a number are read back as it, and no others are written. A numeral may also have a plus sign and
leading zeros, and stands for one number below 2^32.
-/

namespace TableLayout.Text

/-! ## Written numbers -/

theorem toDigits_of_append {n j : Nat} {front : List Char} (hj : 0 < j) (hfront : front ≠ [])
    (h : Nat.toDigits 10 n = front ++ Nat.toDigits 10 j) :
    ∃ k, 0 < k ∧ front = Nat.toDigits 10 k ∧ 10 * k + 1 ≤ n := by
  -- the last digits of both are taken off until none is left of the second
  induction j using Nat.strongRecOn generalizing n with
  | ind j ih =>
    have hn : 10 ≤ n := by
      by_contra hlt
      rw [Nat.toDigits_of_lt_base (by omega)] at h
      have hlength := congrArg List.length h
      have hpos : 0 < front.length := List.length_pos_iff.mpr hfront
      have hdigits : 0 < (Nat.toDigits 10 j).length := Nat.length_toDigits_pos
      simp at hlength
      omega
    rw [Nat.toDigits_of_base_le (by decide) hn] at h
    by_cases hsmall : j < 10
    · rw [Nat.toDigits_of_lt_base hsmall] at h
      obtain ⟨hdigits, hlast⟩ := List.append_inj' h rfl
      have hvalue := congrArg Char.toNat (List.singleton_inj.mp hlast)
      rw [Nat.toNat_digitChar_of_lt_ten (by omega), Nat.toNat_digitChar_of_lt_ten hsmall] at hvalue
      exact ⟨n / 10, by omega, hdigits.symm, by omega⟩
    · have hstep : Nat.toDigits 10 j = Nat.toDigits 10 (j / 10) ++ [(j % 10).digitChar] :=
        Nat.toDigits_of_base_le (by decide) (by omega)
      rw [hstep, ← List.append_assoc] at h
      obtain ⟨hdigits, -⟩ := List.append_inj' h rfl
      obtain ⟨k, hk, hkfront, hkn⟩ := ih (j / 10) (by omega) (by omega) hdigits
      exact ⟨k, hk, hkfront, by omega⟩

theorem repr_append_one {k : Nat} (hk : 0 < k) : k.repr ++ Nat.repr 1 = (10 * k + 1).repr := by
  rw [← String.toList_inj, String.toList_append, Nat.toList_repr, Nat.toList_repr, Nat.toList_repr]
  exact Nat.toDigits_append_toDigits (by decide) hk (by decide)

/-- Two texts that are the same once a number is put behind each: the shorter needs a number more. -/
theorem append_repr_cases {s s' : String} {n n' : Nat} (hn : 0 < n) (hn' : 0 < n')
    (h : s ++ n.repr = s' ++ n'.repr) :
    s = s' ∨ (∃ k, 0 < k ∧ s' = s ++ k.repr ∧ 10 * k + 1 ≤ n) ∨
      ∃ k, 0 < k ∧ s = s' ++ k.repr ∧ 10 * k + 1 ≤ n' := by
  have hlist : s.toList ++ Nat.toDigits 10 n = s'.toList ++ Nat.toDigits 10 n' := by
    simpa [Nat.toList_repr] using congrArg String.toList h
  have hnumber : ∀ {s s' : String} {n n' : Nat} {front : List Char}, 0 < n' →
      s'.toList = s.toList ++ front → Nat.toDigits 10 n = front ++ Nat.toDigits 10 n' →
      s = s' ∨ ∃ k, 0 < k ∧ s' = s ++ k.repr ∧ 10 * k + 1 ≤ n := by
    intro s s' n n' front hpos hs hdigits
    by_cases hfront : front = []
    · rw [hfront, List.append_nil] at hs
      exact .inl (String.toList_inj.mp hs.symm)
    · obtain ⟨k, hk, hkfront, hkn⟩ := toDigits_of_append hpos hfront hdigits
      refine .inr ⟨k, hk, ?_, hkn⟩
      rw [← String.toList_inj, String.toList_append, Nat.toList_repr, hs, hkfront]
  rcases List.append_eq_append_iff.mp hlist with ⟨front, hs, hdigits⟩ | ⟨front, hs, hdigits⟩
  · rcases hnumber hn' hs hdigits with heq | hreach
    · exact .inl heq
    · exact .inr (.inl hreach)
  · rcases hnumber hn hs hdigits with heq | hreach
    · exact .inl heq.symm
    · exact .inr (.inr hreach)

theorem isDigit_of_mem_toDigits {n : Nat} {c : Char} (h : c ∈ Nat.toDigits 10 n) : c.isDigit = true :=
  Nat.isDigit_of_mem_toDigits (by decide) (by decide) h

theorem not_mem_repr {n : Nat} {c : Char} (h : c.isDigit = false) : c ∉ n.repr.toList := by
  intro hc
  rw [Nat.toList_repr] at hc
  rw [isDigit_of_mem_toDigits hc] at h
  cases h

theorem not_mem_toString {i : Int} {c : Char} (h : c.isDigit = false) (hsign : c ≠ '-') :
    c ∉ (toString i).toList := by
  cases i with
  | ofNat n => exact not_mem_repr h
  | negSucc n =>
    show c ∉ ("-" ++ (n + 1).repr).toList
    rw [String.toList_append, List.mem_append, not_or]
    exact ⟨by simpa using hsign, not_mem_repr h⟩

theorem readWord_repr (n : UInt32) : readWord n.toNat.repr.toList = some n := by
  rw [Nat.toList_repr]
  exact readWord_toDigits n

theorem isBlank_of_isDigit {c : Char} (h : c.isDigit = true) : isBlank c = false := by
  simp only [Char.isDigit, Bool.and_eq_true, decide_eq_true_eq] at h
  have h₁ : 48 ≤ c.toNat := h.1
  have h₂ : c.toNat ≤ 57 := h.2
  unfold isBlank
  simp
  omega

/-! ## Numerals -/

/-- A numeral of `n`: decimal digits, with one plus sign before them or none. -/
def IsNumeral (s : List Char) (n : UInt32) : Prop :=
  ∃ digits, (s = digits ∨ s = '+' :: digits) ∧ digits ≠ [] ∧ (∀ c ∈ digits, c.isDigit = true) ∧
    Nat.ofDigitChars 10 digits 0 = n.toNat

theorem IsNumeral.not_mem {s : List Char} {n : UInt32} (h : IsNumeral s n) {c : Char} (hdigit : c.isDigit = false)
    (hplus : c ≠ '+') : c ∉ s := by
  obtain ⟨digits, hs, -, hdigits, -⟩ := h
  have hc : c ∉ digits := by
    intro hmem
    rw [hdigits c hmem] at hdigit
    cases hdigit
  rcases hs with rfl | rfl
  · exact hc
  · exact List.not_mem_cons_of_ne_of_not_mem hplus hc

theorem readDigits_eq_some_iff {s : List Char} {n : Nat} :
    readDigits s = some n ↔ s ≠ [] ∧ (∀ c ∈ s, c.isDigit = true) ∧ Nat.ofDigitChars 10 s 0 = n := by
  have hs : (!s.isEmpty && s.all Char.isDigit) = true ↔ s ≠ [] ∧ ∀ c ∈ s, c.isDigit = true := by simp
  unfold readDigits
  split
  · next h => rw [Option.some.injEq, ← and_assoc, and_iff_right (hs.mp h)]
  · next h =>
    simp only [reduceCtorEq, false_iff]
    exact fun e => h (hs.mpr ⟨e.1, e.2.1⟩)

theorem dropPlus_of_digits {digits : List Char} (h : ∀ c ∈ digits, c.isDigit = true) : dropPlus digits = digits := by
  unfold dropPlus
  split
  · exact absurd (h '+' List.mem_cons_self) (by decide)
  · rfl

theorem readWord_eq_some_iff {s : List Char} {n : UInt32} : readWord s = some n ↔ IsNumeral s n := by
  have hword : readWord s = some n ↔ readDigits (dropPlus s) = some n.toNat := by
    unfold readWord
    cases readDigits (dropPlus s) with
    | none => simp
    | some m =>
      have hlt := n.toNat_lt_size
      by_cases hm : m < UInt32.size
      · simp [hm, ← UInt32.toNat_inj]
      · have hne : m ≠ n.toNat := by omega
        simp [hm, hne]
  rw [hword, readDigits_eq_some_iff]
  constructor
  · intro h
    refine ⟨dropPlus s, ?_, h⟩
    unfold dropPlus
    split
    · exact .inr rfl
    · exact .inl rfl
  · intro h
    obtain ⟨digits, hs, hdigits⟩ := h
    have hdrop : dropPlus s = digits := by
      rcases hs with rfl | rfl
      · exact dropPlus_of_digits hdigits.2.1
      · rfl
    rw [hdrop]
    exact hdigits

end TableLayout.Text
