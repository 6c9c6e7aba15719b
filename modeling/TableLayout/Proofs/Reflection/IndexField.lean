import TableLayout.Proofs.Reflection.Run

/-!
# The index of the identifier

A step over an identifier sets the index: to the row that the identifier is about to get, or to -1 if it has none.
All other steps leave the index as it is, so that the last identifier decides.
-/

namespace TableLayout

structure IsLastId (ms before : List Member) (m : Member) (after : List Member) : Prop where
  members_eq : ms = before ++ m :: after
  isId : m.field.isId = true
  isLast : ∀ x ∈ after, x.field.isId = false

theorem exists_isLastId {ms : List Member} (h : ∃ x ∈ ms, x.field.isId = true) :
    ∃ before m after, IsLastId ms before m after := by
  obtain ⟨before, m, after, hms, hid, hafter⟩ := exists_last h
  exact ⟨before, m, after, hms, hid, fun x hx => Bool.eq_false_iff.mpr (hafter x hx)⟩

namespace Reflection
variable {r r' : Reflection} {m : Member} {place : Nat}

theorem step_indexField (h : r.step place m = .ok r') : r'.indexField =
    if m.field.isId then if m.field.isNonInline then -1 else .ofNat r.rows.length else r.indexField := by
  rcases step_cases h with ⟨hu, rfl⟩ | ⟨hu, row, -, rfl⟩
  -- a member without a row is an identifier
  · have hflags : m.field.isId = true ∧ m.field.isNonInline = true := by simpa [Field.isUnstored] using hu
    rw [hflags.1, hflags.2]
    rfl
  · have hindex : (r.accept place m.field row).indexField = (r.noteId m.field).indexField :=
      noteRelation_indexField ..
    rw [hindex, noteId_indexField]
    by_cases hid : m.field.isId = true
    · have hinline : m.field.isNonInline = false := by simpa [Field.isUnstored, hid] using hu
      simp [hid, hinline]
    · simp [hid]

theorem run_indexField_of_no_id {ms : List Member} (hno : ∀ x ∈ ms, x.field.isId = false)
    (h : r.run place ms = .ok r') : r'.indexField = r.indexField := by
  induction ms generalizing r place with
  | nil =>
    cases h
    rfl
  | cons m ms ih =>
    obtain ⟨r₁, hstep, hrest⟩ := bind_eq_ok.mp h
    rw [List.forall_mem_cons] at hno
    rw [ih hno.2 hrest, step_indexField hstep, hno.1]
    rfl

/-- The last identifier is found at the number of rows before it, if it has a row. -/
theorem run_indexField {total : Nat} {before after : List Member} (hid : m.field.isId = true)
    (hafter : ∀ x ∈ after, x.field.isId = false) (h : (initial total).run 0 (before ++ m :: after) = .ok r) :
    r.indexField = if m.field.isNonInline then -1 else .ofNat (storedMembers before).length := by
  rw [run_append, bind_eq_ok] at h
  obtain ⟨r₁, hbefore, hrest⟩ := h
  obtain ⟨r₂, hstep, hlast⟩ := bind_eq_ok.mp hrest
  rw [run_indexField_of_no_id hafter hlast, step_indexField hstep, length_rows hbefore, if_pos hid]

end Reflection

theorem Member.metaRow_signed_of_id {m : Member} {row : MetaRow} (h : m.metaRow = .ok row)
    (hid : m.field.isId = true) : row.signed = false := by
  obtain ⟨kind, -, hrow⟩ := bind_eq_ok.mp h
  cases hrow
  simp [metaSigned, hid]

/-- Without an identifier, or where the last one has no row, there is no index. Otherwise the index counts the rows
before that of the last identifier, and so finds its row. -/
theorem Compilation.index_field_law (c : Compilation) (hn : c.members.length < 2 ^ 31) {r : Reflection}
    (hr : c.reflect = .ok r) :
    ((∀ x ∈ c.members, x.field.isId = false) → r.indexField = -1) ∧
    ((∃ x ∈ c.members, x.field.isId = true) → ∃ before m after, IsLastId c.members before m after) ∧
    ∀ before m after, IsLastId c.members before m after →
      let rowsBefore := (before.filter fun x => !(x.field.isId && x.field.isNonInline)).length
      (m.field.isNonInline = true → r.indexField = -1) ∧
      (m.field.isNonInline = false → r.indexField.toInt = rowsBefore ∧ rowsBefore < r.rows.length ∧
        ∃ row, r.rows[rowsBefore]? = some row ∧ m.metaRow = .ok row ∧ row.signed = false) := by
  refine ⟨?_, exists_isLastId, ?_⟩
  · intro hno
    exact Reflection.run_indexField_of_no_id hno hr
  · intro before m after hlast
    have hrun : (Reflection.initial c.members.length).run 0 (before ++ m :: after) = .ok r := by
      rw [← hlast.members_eq]
      exact hr
    have hindex := Reflection.run_indexField hlast.isId hlast.isLast hrun
    constructor
    · intro hnonInline
      rw [hindex, if_pos hnonInline]
    · intro hinline
      have hstored : m.field.isUnstored = false := by simp [Field.isUnstored, hinline]
      obtain ⟨row, hrow, hat⟩ := Reflection.row_at hrun hstored
      have hbound : (storedMembers before).length < 2 ^ 31 := by
        have hcount := length_storedMembers_add before
        have hlength := congrArg List.length hlast.members_eq
        rw [List.length_append] at hlength
        omega
      refine ⟨?_, (List.getElem?_eq_some_iff.mp hat).1, row, hat, hrow, Member.metaRow_signed_of_id hrow hlast.isId⟩
      rw [hindex, if_neg (by simp [hinline])]
      exact Int32.toInt_ofNat_of_lt hbound

def ranksCompiled : Compilation :=
  { spellsCompiled with
    members := spellsCompiled.members ++
      [⟨"RankID", ⟨.int .w16 true, 0⟩, ⟨"Rank_ID", 16, true, 0, true, true, false, none⟩,
        ⟨"Rank_ID", .int, none, true, none⟩⟩] }

def ranksReflection : Reflection :=
  ⟨3, 4, 4, 3, [⟨.byte, 3, false⟩, ⟨.string, 1, true⟩, ⟨.int, 1, true⟩, ⟨.short, 1, false⟩]⟩

theorem index_field_law_ranks : ranksCompiled.members.length < 2 ^ 31 ∧
    ranksCompiled.reflect = .ok ranksReflection ∧
    ∃ m, IsLastId ranksCompiled.members spellsCompiled.members m [] ∧
      ranksReflection.indexField.toInt = (storedMembers spellsCompiled.members).length ∧
      ∃ row, ranksReflection.rows[(storedMembers spellsCompiled.members).length]? = some row ∧
        m.metaRow = .ok row ∧ row.signed = false := by
  have hn : ranksCompiled.members.length < 2 ^ 31 := by decide
  have hr : ranksCompiled.reflect = .ok ranksReflection := by decide
  have hlast : IsLastId ranksCompiled.members spellsCompiled.members ranksCompiled.members[4] [] :=
    ⟨rfl, by decide, by simp⟩
  obtain ⟨-, -, hlaw⟩ := Compilation.index_field_law ranksCompiled hn hr
  obtain ⟨hindex, -, hrow⟩ := (hlaw _ _ _ hlast).2 (by decide)
  exact ⟨hn, hr, _, hlast, hindex, hrow⟩

end TableLayout
