import Mathlib.Algebra.Order.Ring.Nat
import Mathlib.Data.List.Induction
import TableLayout.Artifact.Reflection
import TableLayout.Proofs.Compiled

/-!
# Runs of the reflection record

A step either skips a member or notes what it is and adds its row. What every step keeps holds after a run
over any first part of the members; in this way the rows are those of the stored members, in their order.
-/

namespace TableLayout

def storedMembers (ms : List Member) : List Member := ms.filter (!·.field.isUnstored)

@[simp] theorem storedMembers_append (xs ys : List Member) :
    storedMembers (xs ++ ys) = storedMembers xs ++ storedMembers ys := List.filter_append ..

theorem storedMembers_of_unstored {m : Member} (h : m.field.isUnstored = true) :
    storedMembers [m] = [] := by
  simp [storedMembers, h]

theorem storedMembers_of_stored {m : Member} (h : m.field.isUnstored = false) :
    storedMembers [m] = [m] := by
  simp [storedMembers, h]

theorem length_storedMembers_add (ms : List Member) :
    (storedMembers ms).length + ms.countP (·.field.isUnstored) = ms.length := by
  induction ms with
  | nil => rfl
  | cons m ms ih =>
    unfold storedMembers at *
    cases h : m.field.isUnstored <;> simp [h] <;> omega

namespace Reflection

section
variable (r : Reflection) (f : Field) (place : Nat)

@[simp] theorem noteId_rows : (r.noteId f).rows = r.rows := by unfold noteId; split <;> rfl

@[simp] theorem noteId_fieldCount : (r.noteId f).fieldCount = r.fieldCount := by
  unfold noteId; split <;> rfl

@[simp] theorem noteId_fileFieldCount : (r.noteId f).fileFieldCount = r.fileFieldCount := by
  unfold noteId; split <;> rfl

@[simp] theorem noteId_parentIndexField : (r.noteId f).parentIndexField = r.parentIndexField := by
  unfold noteId; split <;> rfl

theorem noteId_indexField :
    (r.noteId f).indexField = if f.isId then .ofNat r.rows.length else r.indexField := by
  unfold noteId; split <;> rfl

@[simp] theorem noteRelation_rows : (r.noteRelation f place).rows = r.rows := by
  unfold noteRelation; split <;> rfl

@[simp] theorem noteRelation_fieldCount : (r.noteRelation f place).fieldCount = r.fieldCount := by
  unfold noteRelation; split <;> rfl

@[simp] theorem noteRelation_indexField : (r.noteRelation f place).indexField = r.indexField := by
  unfold noteRelation; split <;> rfl

theorem noteRelation_fileFieldCount : (r.noteRelation f place).fileFieldCount =
    if f.isPlainKey then r.fileFieldCount - 1 else r.fileFieldCount := by
  unfold noteRelation Field.isPlainKey
  cases f.isRelation <;> cases f.isNonInline <;> rfl

theorem noteRelation_parentIndexField : (r.noteRelation f place).parentIndexField =
    if f.isRelation then .ofNat place + (if r.indexField = -1 then -1 else 0)
    else r.parentIndexField := by
  unfold noteRelation; split <;> rfl

end

def accept (r : Reflection) (place : Nat) (f : Field) (row : MetaRow) : Reflection :=
  let noted := (r.noteId f).noteRelation f place
  { noted with rows := r.rows ++ [row] }

/-- All that a step can do. -/
theorem step_cases {r r' : Reflection} {place : Nat} {m : Member} (h : r.step place m = .ok r') :
    (m.field.isUnstored = true ∧ r' = r.skipId) ∨
      (m.field.isUnstored = false ∧ ∃ row, m.metaRow = .ok row ∧ r' = r.accept place m.field row) := by
  unfold step at h
  split at h
  · next hu => exact .inl ⟨hu, (Except.ok.inj h).symm⟩
  · next hu =>
    obtain ⟨row, hrow, h'⟩ := bind_eq_ok.mp h
    refine .inr ⟨Bool.eq_false_iff.mpr hu, row, hrow, ?_⟩
    simpa [accept] using (Except.ok.inj h').symm

theorem run_append (r : Reflection) (place : Nat) (xs ys : List Member) :
    r.run place (xs ++ ys) = (r.run place xs >>= fun r => r.run (place + xs.length) ys) := by
  induction xs generalizing r place with
  | nil => rfl
  | cons x xs ih =>
    simp only [List.cons_append, run]
    cases r.step place x with
    | error f => rfl
    | ok r' =>
      show r'.run (place + 1) (xs ++ ys) = (r'.run (place + 1) xs >>= _)
      rw [ih, List.length_cons, Nat.add_assoc, Nat.add_comm 1]

theorem run_snoc {r r' : Reflection} {xs : List Member} {m : Member} :
    r.run 0 (xs ++ [m]) = .ok r' ↔
      ∃ r₁, r.run 0 xs = .ok r₁ ∧ r₁.step xs.length m = .ok r' := by
  rw [run_append, bind_eq_ok]
  simp only [run, Nat.zero_add, bind_eq_ok, Except.ok.injEq, exists_eq_right]

/-- What holds at the start and is kept by every step holds after the run. -/
theorem run_invariant (P : List Member → Reflection → Prop) {ms : List Member} {r₀ r : Reflection}
    (init : P [] r₀)
    (keep : ∀ before m after r r', ms = before ++ m :: after → P before r →
      r.step before.length m = .ok r' → P (before ++ [m]) r')
    (h : r₀.run 0 ms = .ok r) : P ms r := by
  have front : ∀ (seen rest : List Member) (r : Reflection), ms = seen ++ rest →
      r₀.run 0 seen = .ok r → P seen r := by
    intro seen
    -- the invariant is carried from the front, so the list is taken apart at its end
    induction seen using List.reverseRecOn with
    | nil =>
      intro rest r _ hr
      cases hr
      exact init
    | append_singleton before m ih =>
      intro rest r hms hr
      obtain ⟨r₁, hr₁, hs⟩ := run_snoc.mp hr
      have hms' : ms = before ++ m :: rest := by simpa using hms
      exact keep before m rest r₁ r hms' (ih (m :: rest) r₁ hms' hr₁) hs
  exact front ms [] r (by simp) h

theorem run_rows {total : Nat} {ms : List Member} {r : Reflection}
    (h : (initial total).run 0 ms = .ok r) :
    List.Forall₂ (fun m row => m.metaRow = .ok row) (storedMembers ms) r.rows := by
  refine run_invariant
    (fun seen r => List.Forall₂ (fun m row => m.metaRow = .ok row) (storedMembers seen) r.rows)
    .nil ?_ h
  intro before m after r r' _ ih hs
  rcases step_cases hs with ⟨hu, rfl⟩ | ⟨hu, row, hrow, rfl⟩
  · simpa [storedMembers_of_unstored hu, skipId] using ih
  · rw [storedMembers_append, storedMembers_of_stored hu]
    exact List.rel_append ih (.cons hrow .nil)

theorem length_rows {total : Nat} {ms : List Member} {r : Reflection}
    (h : (initial total).run 0 ms = .ok r) : r.rows.length = (storedMembers ms).length :=
  (run_rows h).length_eq.symm

theorem row_at {total : Nat} {before after : List Member} {m : Member} {r : Reflection}
    (h : (initial total).run 0 (before ++ m :: after) = .ok r) (hm : m.field.isUnstored = false) :
    ∃ row, m.metaRow = .ok row ∧ r.rows[(storedMembers before).length]? = some row := by
  have hrows := run_rows h
  have hsplit : storedMembers (before ++ m :: after) =
      storedMembers before ++ m :: storedMembers after := by
    rw [storedMembers_append, ← List.singleton_append, storedMembers_append, storedMembers_of_stored hm,
      List.singleton_append]
  rw [hsplit] at hrows
  have hback := List.forall₂_drop (storedMembers before).length hrows
  rw [List.drop_left] at hback
  obtain ⟨row, rest, hrow, -, e⟩ := List.forall₂_cons_left_iff.mp hback
  refine ⟨row, hrow, ?_⟩
  rw [← Nat.add_zero (storedMembers before).length, ← List.getElem?_drop, e]
  rfl

end Reflection

def spellsReflection : Reflection :=
  ⟨-1, 2, 3, 2, [⟨.byte, 3, false⟩, ⟨.string, 1, true⟩, ⟨.int, 1, true⟩]⟩

theorem reflect_spells : spellsCompiled.reflect = .ok spellsReflection := by decide

end TableLayout
