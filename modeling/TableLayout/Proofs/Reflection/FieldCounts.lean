import TableLayout.Proofs.Reflection.Run

/-!
# The field counts

The counts start at the number of members. A member outside the record takes one off both, a plain key one
off the second. No member is taken off twice, so neither count passes 0.
-/

namespace TableLayout

def Member.leavesFile (m : Member) : Bool := m.field.isUnstored || m.field.isPlainKey

namespace Reflection

/-- The counts after the members `seen` of `total`. -/
structure Counts (total : Nat) (seen : List Member) (r : Reflection) : Prop where
  fieldCount : r.fieldCount.toNat + seen.countP (·.field.isUnstored) = total
  fileFieldCount : r.fileFieldCount.toNat + seen.countP Member.leavesFile = total

theorem toNat_pred {n : UInt32} (h : 0 < n.toNat) : (n - 1).toNat + 1 = n.toNat := by
  have : (1 : UInt32) ≤ n := by rw [UInt32.le_iff_toNat_le]; exact h
  rw [UInt32.toNat_sub_of_le _ _ this, UInt32.toNat_one]
  omega

theorem initial_counts {total : Nat} (h : total < 2 ^ 32) : Counts total [] (initial total) := by
  have hn : (UInt32.ofNat total).toNat = total := UInt32.toNat_ofNat_of_lt' h
  exact ⟨hn, hn⟩

section
variable {total : Nat} {before : List Member} {m : Member} {r r' : Reflection}

theorem Counts.pos (hc : Counts total before r) (hn : before.length < total) :
    0 < r.fieldCount.toNat ∧ 0 < r.fileFieldCount.toNat := by
  have h₁ := hc.fieldCount
  have h₂ := hc.fileFieldCount
  have l₁ := before.countP_le_length (p := (·.field.isUnstored))
  have l₂ := before.countP_le_length (p := Member.leavesFile)
  omega

theorem Counts.step (hc : Counts total before r) (hn : before.length < total)
    (hs : r.step before.length m = .ok r') : Counts total (before ++ [m]) r' := by
  obtain ⟨p₁, p₂⟩ := hc.pos hn
  have e₁ := toNat_pred p₁
  have e₂ := toNat_pred p₂
  obtain ⟨h₁, h₂⟩ := hc
  rcases step_cases hs with ⟨hu, rfl⟩ | ⟨hu, row, -, rfl⟩
  · have hl : m.leavesFile = true := by simp [Member.leavesFile, hu]
    constructor <;> simp only [List.countP_append, List.countP_singleton, hu, hl, skipId] <;> simp <;> omega
  · have hl : m.leavesFile = m.field.isPlainKey := by simp [Member.leavesFile, hu]
    constructor
    · simpa [accept, hu] using h₁
    · cases hk : m.field.isPlainKey <;>
        simp [accept, noteRelation_fileFieldCount, hl, hk] <;> omega

end

theorem run_counts {total : Nat} {ms : List Member} {r : Reflection} (hn : ms.length ≤ total)
    (ht : total < 2 ^ 32) (h : (initial total).run 0 ms = .ok r) : Counts total ms r := by
  refine run_invariant (Counts total) (initial_counts ht) ?_ h
  intro before m after r r' hms hc hs
  have hb : before.length < total := by
    rw [hms, List.length_append, List.length_cons] at hn
    omega
  exact hc.step hb hs

/-- What a step takes off the counts is what the member stands for, without a wrap below 0. -/
theorem Counts.step_exact {total : Nat} {before : List Member} {m : Member} {r r' : Reflection}
    (hc : Counts total before r) (hc' : Counts total (before ++ [m]) r') :
    r'.fieldCount.toNat + (if m.field.isUnstored then 1 else 0) = r.fieldCount.toNat ∧
      r'.fileFieldCount.toNat + (if m.leavesFile then 1 else 0) = r.fileFieldCount.toNat := by
  have h₁ := hc.fieldCount
  have h₂ := hc.fileFieldCount
  have h₁' := hc'.fieldCount
  have h₂' := hc'.fileFieldCount
  simp only [List.countP_append, List.countP_singleton] at h₁' h₂'
  omega

end Reflection

/-! ## The law of the counts -/

theorem countP_leavesFile (ms : List Member) :
    ms.countP Member.leavesFile = ms.countP (·.field.isUnstored) +
      ms.countP (fun m => m.field.isPlainKey && !m.field.isId) := by
  induction ms with
  | nil => rfl
  | cons m ms ih =>
    simp only [List.countP_cons, ih]
    unfold Member.leavesFile Field.isUnstored Field.isPlainKey
    cases m.field.isId <;> cases m.field.isRelation <;> cases m.field.isNonInline <;> simp <;> omega

/-- Both counts are above 0 before every step, a step takes off exactly one per member that leaves, and the
final counts and rows are those of the members that stay. -/
theorem Compilation.field_count_law (c : Compilation) (hn : c.members.length < 2 ^ 32) :
    (∀ before m after r, c.members = before ++ m :: after →
      (Reflection.initial c.members.length).run 0 before = .ok r →
        (0 < r.fieldCount ∧ 0 < r.fileFieldCount) ∧
        ∀ r', r.step before.length m = .ok r' →
          r'.fieldCount.toNat + (if m.field.isUnstored then 1 else 0) = r.fieldCount.toNat ∧
          r'.fileFieldCount.toNat + (if m.field.isUnstored || m.field.isPlainKey then 1 else 0) =
            r.fileFieldCount.toNat) ∧
    ∀ r, c.reflect = .ok r →
      r.fieldCount.toNat + c.members.countP (fun m => m.field.isId && m.field.isNonInline) =
        c.members.length ∧
      r.fileFieldCount.toNat +
          c.members.countP (fun m => m.field.isRelation && m.field.isNonInline && !m.field.isId) =
        r.fieldCount.toNat ∧
      List.Forall₂ (fun m row => m.metaRow = .ok row)
        (c.members.filter fun m => !(m.field.isId && m.field.isNonInline)) r.rows ∧
      r.rows.length = r.fieldCount.toNat ∧
      r.fileFieldCount ≤ r.fieldCount ∧ r.fieldCount.toNat ≤ c.members.length := by
  constructor
  · intro before m after r hms hr
    have hb : before.length < c.members.length := by simp [hms]
    have hc := Reflection.run_counts (Nat.le_of_lt hb) hn hr
    obtain ⟨p₁, p₂⟩ := hc.pos hb
    refine ⟨⟨UInt32.lt_iff_toNat_lt.mpr p₁, UInt32.lt_iff_toNat_lt.mpr p₂⟩, fun r' hs => ?_⟩
    exact hc.step_exact (hc.step hb hs)
  · intro r hr
    have hc := Reflection.run_counts (Nat.le_refl _) hn hr
    have hlen := Reflection.length_rows hr
    have hstored := length_storedMembers_add c.members
    obtain ⟨h₁, h₂⟩ := hc
    rw [countP_leavesFile] at h₂
    refine ⟨h₁, ?_, Reflection.run_rows hr, ?_, ?_, ?_⟩
    · simp only [Field.isPlainKey] at h₂
      omega
    · omega
    · rw [UInt32.le_iff_toNat_le]
      omega
    · omega

/-- Of four members one has no row, and one of the other three is not in the file. -/
theorem field_count_law_spells : spellsCompiled.members.length < 2 ^ 32 ∧
    spellsCompiled.reflect = .ok spellsReflection ∧
    spellsReflection.fieldCount.toNat + 1 = 4 ∧
    spellsReflection.fileFieldCount.toNat + 1 = spellsReflection.fieldCount.toNat ∧
    spellsReflection.rows.length = spellsReflection.fieldCount.toNat := by
  have hn : spellsCompiled.members.length < 2 ^ 32 := by decide
  obtain ⟨h₁, h₂, -, h₃, -⟩ := (Compilation.field_count_law spellsCompiled hn).2 _ reflect_spells
  exact ⟨hn, reflect_spells, h₁, h₂, h₃⟩

end TableLayout
