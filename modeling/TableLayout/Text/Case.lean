import TableLayout.Text.CaseTables

/-!
# Letter case

The full upper-case mapping, which can turn one character into several, and the properties Uppercase and
Lowercase. Lower-casing is needed for ASCII only. No other character turns into an underscore or a newline, and
none is lost.
-/

namespace TableLayout.Text

def isUpper (c : Char) : Bool :=
  if c.toNat < 0x80 then c.isUpper else upperRuns.any (·.has c.toNat)

def isLower (c : Char) : Bool :=
  if c.toNat < 0x80 then c.isLower else lowerRuns.any (·.has c.toNat)

/-- The upper case of a code point beyond ASCII; itself if it has none. -/
def upperCodes (n : Nat) : List Nat :=
  match upperShifts.find? (·.run.has n) with
  | some s => [s.target + (n - s.run.first)]
  | none => (upperExpansions.lookup n).getD [n]

def upper (c : Char) : List Char :=
  if c.toNat < 0x80 then [c.toUpper] else (upperCodes c.toNat).map Char.ofNat

def asciiLower (s : List Char) : List Char := s.map Char.toLower

/-! ## Marks that nothing becomes -/

theorem toNat_toUpper (c : Char) :
    c.toUpper.toNat = if 97 ≤ c.toNat ∧ c.toNat ≤ 122 then c.toNat - 32 else c.toNat := by
  have hsmall : ('a'.val ≤ c.val ∧ c.val ≤ 'z'.val) ↔ 97 ≤ c.toNat ∧ c.toNat ≤ 122 := Iff.rfl
  unfold Char.toUpper
  split
  · next h =>
    rw [if_pos (hsmall.mp h)]
    have hsum : (c.val + ('A'.val - 'a'.val)).toNat = (c.val.toNat + (2 ^ 32 - 32)) % 2 ^ 32 := UInt32.toNat_add ..
    have hge : 97 ≤ c.val.toNat := (hsmall.mp h).1
    have hle : c.val.toNat ≤ 122 := (hsmall.mp h).2
    show (c.val + ('A'.val - 'a'.val)).toNat = c.val.toNat - 32
    rw [hsum]
    omega
  · next h => rw [if_neg fun h' => h (hsmall.mpr h')]

/-- A character of ASCII that is no capital, and that no other character is mapped to. -/
def isFixed (mark : Char) : Bool :=
  0 < mark.toNat && mark.toNat < 0x80 && !mark.isUpper &&
    upperShifts.all (fun s => mark.toNat < s.target || s.target + (s.run.last - s.run.first) < mark.toNat) &&
    upperExpansions.all (!·.2.contains mark.toNat)

/-- In capitals a code point is shifted, or expanded, or stays. -/
theorem upperCodes_cases (n : Nat) :
    (∃ s ∈ upperShifts, s.run.has n = true ∧ upperCodes n = [s.target + (n - s.run.first)]) ∨
      (∃ p ∈ upperExpansions, upperCodes n = p.2) ∨ upperCodes n = [n] := by
  unfold upperCodes
  split
  · next s hs => exact .inl ⟨s, List.mem_of_find?_eq_some hs, by simpa using List.find?_some hs, rfl⟩
  · cases hl : upperExpansions.lookup n with
    | none => exact .inr (.inr rfl)
    | some codes =>
      obtain ⟨before, after, hp, -⟩ := List.lookup_eq_some_iff.mp hl
      exact .inr (.inl ⟨(n, codes), by simp [hp], rfl⟩)

section
variable {mark c : Char} (hmark : isFixed mark = true)
include hmark

theorem ofNat_ne_of_isFixed {n : Nat} (h : n ≠ mark.toNat) : Char.ofNat n ≠ mark := by
  unfold isFixed at hmark
  simp only [Bool.and_eq_true, decide_eq_true_eq] at hmark
  intro e
  have hval := congrArg Char.toNat e
  by_cases hv : n.isValidChar
  · rw [show Char.ofNat n = Char.ofNatAux n hv from dif_pos hv] at hval
    exact h hval
  · rw [show Char.ofNat n = Char.ofNat 0 from dif_neg hv] at hval
    have hzero : mark.toNat = 0 := hval.symm
    omega

theorem not_mem_upperCodes {n : Nat} (h : n ≠ mark.toNat) : mark.toNat ∉ upperCodes n := by
  unfold isFixed at hmark
  simp only [Bool.and_eq_true, List.all_eq_true, Bool.or_eq_true, decide_eq_true_eq, Bool.not_eq_true',
    List.contains_eq_mem, decide_eq_false_iff_not] at hmark
  obtain ⟨⟨-, hshifts⟩, hexpansions⟩ := hmark
  rcases upperCodes_cases n with ⟨s, hs, hrun, hcodes⟩ | ⟨p, hp, hcodes⟩ | hcodes
  · have hbounds := hshifts s hs
    simp only [Run.has, Bool.and_eq_true, decide_eq_true_eq] at hrun
    rw [hcodes, List.mem_singleton]
    omega
  · rw [hcodes]
    exact hexpansions p hp
  · rw [hcodes, List.mem_singleton]
    exact h.symm

theorem toUpper_ne_of_isFixed (h : c ≠ mark) : c.toUpper ≠ mark := by
  unfold isFixed at hmark
  simp only [Bool.and_eq_true, Bool.not_eq_true'] at hmark
  have hupper := hmark.1.1.2
  unfold Char.isUpper at hupper
  rw [← Bool.not_eq_true, decide_eq_true_iff] at hupper
  have hcapital : ¬(65 ≤ mark.toNat ∧ mark.toNat ≤ 90) := hupper
  rw [ne_eq, ← Char.toNat_inj, toNat_toUpper]
  split
  · omega
  · exact fun e => h (Char.toNat_inj.mp e)

/-- Nothing but a fixed character becomes one. -/
theorem not_mem_upper (h : c ≠ mark) : mark ∉ upper c := by
  unfold upper
  by_cases hc : c.toNat < 0x80
  · simpa [hc] using (toUpper_ne_of_isFixed hmark h).symm
  · rw [if_neg hc]
    intro hmem
    obtain ⟨n, hn, e⟩ := List.mem_map.mp hmem
    have hcode : c.toNat ≠ mark.toNat := fun e => h (Char.toNat_inj.mp e)
    have hne : n ≠ mark.toNat := fun e => not_mem_upperCodes hmark hcode (e ▸ hn)
    exact ofNat_ne_of_isFixed hmark hne e

end

theorem newline_not_mem_upper {c : Char} (h : c ≠ '\n') : '\n' ∉ upper c := not_mem_upper (by decide +kernel) h

theorem underscore_not_mem_upper {c : Char} (h : c ≠ '_') : '_' ∉ upper c := not_mem_upper (by decide +kernel) h

theorem upperCodes_ne_nil (n : Nat) : upperCodes n ≠ [] := by
  have hexpansions : ∀ p ∈ upperExpansions, p.2 ≠ [] := by decide +kernel
  rcases upperCodes_cases n with ⟨s, -, -, hcodes⟩ | ⟨p, hp, hcodes⟩ | hcodes
  · rw [hcodes]
    exact List.cons_ne_nil _ _
  · rw [hcodes]
    exact hexpansions p hp
  · rw [hcodes]
    exact List.cons_ne_nil _ _

theorem upper_ne_nil (c : Char) : upper c ≠ [] := by
  unfold upper
  by_cases hc : c.toNat < 0x80
  · rw [if_pos hc]
    exact List.cons_ne_nil _ _
  · rw [if_neg hc, ne_eq, List.map_eq_nil_iff]
    exact upperCodes_ne_nil c.toNat

end TableLayout.Text
