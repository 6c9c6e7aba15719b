import Mathlib.Algebra.Group.Nat.Defs
import Mathlib.Data.UInt
import TableLayout.Build

/-!
# The order of builds

A build is a number of four digits to the base 2^32, and builds are ordered as these numbers are. A range holds the
builds whose numbers lie between those of its ends, and with two builds all that lie between them.
-/

namespace TableLayout

namespace Build

/-- The number whose digits to the base 2^32 are the four components. -/
def value (b : Build) : Nat :=
  ((b.expansion.toNat * 2 ^ 32 + b.major.toNat) * 2 ^ 32 + b.minor.toNat) * 2 ^ 32 + b.number.toNat

theorem value_lt (b : Build) : b.value < 2 ^ 128 := by
  have he := b.expansion.toNat_lt
  have hm := b.major.toNat_lt
  have hn := b.minor.toNat_lt
  have hb := b.number.toNat_lt
  unfold value
  omega

/-- Of two numbers with one more digit each, the last digits count only where the others agree. -/
theorem compare_digits {n high high' low low' : Nat} (hlow : low < n) (hlow' : low' < n) :
    compare (high * n + low) (high' * n + low') = (compare high high').then (compare low low') := by
  rcases Nat.lt_trichotomy high high' with h | rfl | h
  · have hstep : high * n + n ≤ high' * n := by
      rw [← Nat.succ_mul]
      exact Nat.mul_le_mul_right n h
    rw [Nat.compare_eq_lt.mpr h, Nat.compare_eq_lt.mpr (by omega)]
    rfl
  · rw [Nat.compare_eq_eq.mpr rfl, Ordering.then]
    rcases Nat.lt_trichotomy low low' with h | rfl | h
    · rw [Nat.compare_eq_lt.mpr h, Nat.compare_eq_lt.mpr (by omega)]
    · rw [Nat.compare_eq_eq.mpr rfl, Nat.compare_eq_eq.mpr rfl]
    · rw [Nat.compare_eq_gt.mpr h, Nat.compare_eq_gt.mpr (by omega)]
  · have hstep : high' * n + n ≤ high * n := by
      rw [← Nat.succ_mul]
      exact Nat.mul_le_mul_right n h
    rw [Nat.compare_eq_gt.mpr h, Nat.compare_eq_gt.mpr (by omega)]
    rfl

theorem compare_eq_compare_value (a b : Build) : compare a b = compare a.value b.value := by
  have hcomponent : ∀ n : UInt32, n.toNat < 2 ^ 32 := UInt32.toNat_lt
  have hcompare : compare a b = (compare a.expansion b.expansion).then
      ((compare a.major b.major).then ((compare a.minor b.minor).then (compare a.number b.number))) := rfl
  unfold value
  rw [compare_digits (hcomponent _) (hcomponent _), compare_digits (hcomponent _) (hcomponent _),
    compare_digits (hcomponent _) (hcomponent _), hcompare]
  simp only [UInt32.compare_eq_toNat_compare_toNat, Ordering.then_assoc]

theorem le_iff_value_le {a b : Build} : a ≤ b ↔ a.value ≤ b.value := by
  show (compare a b).isLE = true ↔ _
  rw [compare_eq_compare_value]
  exact Nat.isLE_compare

theorem value_injective : Function.Injective value := by
  intro a b h
  have hcomponent : ∀ n : UInt32, n.toNat < 2 ^ 32 := UInt32.toNat_lt
  have hmajor := hcomponent a.major
  have hmajor' := hcomponent b.major
  have hminor := hcomponent a.minor
  have hminor' := hcomponent b.minor
  have hnumber := hcomponent a.number
  have hnumber' := hcomponent b.number
  unfold value at h
  cases a
  cases b
  simp only [mk.injEq, ← UInt32.toNat_inj] at *
  omega

end Build

namespace BuildRange

theorem contains_iff {r : BuildRange} {b : Build} :
    r.contains b = true ↔ r.min.value ≤ b.value ∧ b.value ≤ r.max.value := by
  simp [contains, Build.le_iff_value_le]

end BuildRange

/-- Builds are ordered as numbers of 128 bits, which tell them apart. A range contains the builds between its ends in
this order, none if the ends are the wrong way round, and with two builds all between them. -/
theorem Build.ordered_by_value :
    (∀ a b : Build, a.value < 2 ^ 128 ∧ compare a b = compare a.value b.value ∧ (a.value = b.value ↔ a = b)) ∧
    ∀ r : BuildRange,
      (∀ b, r.contains b = true ↔ r.min.value ≤ b.value ∧ b.value ≤ r.max.value) ∧
      (compare r.min r.max = .gt → ∀ b, r.contains b = false) ∧
      ∀ a b c, r.contains a = true → r.contains c = true → a ≤ b → b ≤ c → r.contains b = true := by
  refine ⟨fun a b => ⟨a.value_lt, compare_eq_compare_value a b, value_injective.eq_iff⟩, fun r => ⟨?_, ?_, ?_⟩⟩
  · exact fun b => BuildRange.contains_iff
  · intro hends b
    rw [compare_eq_compare_value, Nat.compare_eq_gt] at hends
    rw [← Bool.not_eq_true, BuildRange.contains_iff]
    omega
  · intro a b c ha hc hab hbc
    rw [BuildRange.contains_iff] at ha hc ⊢
    rw [le_iff_value_le] at hab hbc
    omega

def Build.lastBeforeTenth : Build := ⟨9, 4294967295, 4294967295, 4294967295⟩

/-- The components of the first number are all smaller but one, and it is the greater. -/
theorem Build.ordered_by_value_tenth :
    compare ⟨10, 0, 0, 0⟩ lastBeforeTenth = .gt ∧
    (∀ b, (⟨⟨10, 0, 0, 0⟩, lastBeforeTenth⟩ : BuildRange).contains b = false) ∧
    (⟨⟨9, 2, 7, 45745⟩, ⟨10, 0, 0, 0⟩⟩ : BuildRange).contains lastBeforeTenth = true := by
  have hgt : compare ⟨10, 0, 0, 0⟩ lastBeforeTenth = .gt := by decide
  have hreversed := (ordered_by_value.2 ⟨⟨10, 0, 0, 0⟩, lastBeforeTenth⟩).2.1
  have hbetween := (ordered_by_value.2 ⟨⟨9, 2, 7, 45745⟩, ⟨10, 0, 0, 0⟩⟩).2.2
  refine ⟨hgt, hreversed hgt, ?_⟩
  exact hbetween ⟨9, 2, 7, 45745⟩ lastBeforeTenth ⟨10, 0, 0, 0⟩ (by decide) (by decide) (by decide) (by decide)

end TableLayout
