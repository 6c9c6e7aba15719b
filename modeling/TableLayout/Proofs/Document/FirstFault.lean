import TableLayout.Proofs.Document.ReaderRun

/-!
# The first line with a fault

A reader never looks ahead and never looks at white space at the end of a line. A refused document is therefore
refused at its first line with a fault: what stands behind that line does not count, and the lines before it are a
document of their own.
-/

namespace TableLayout

open Text

namespace Reader

/-! ## Runs -/

theorem step_ne_start {line : List Char} {r r' : Reader} (hs : r.step line = .ok r')
    (h : r ≠ .start ∨ line ≠ []) : r' ≠ .start := by
  rintro rfl
  cases r with
  | start =>
    have hline : line.isEmpty = false := by simpa using h
    simp only [step, hline, Bool.false_eq_true, if_false, readHeading] at hs
    split at hs <;> cases hs
  | columns d =>
    simp only [step, readColumn] at hs
    split at hs
    · cases hs
    · obtain ⟨c, -, hs⟩ := bind_eq_ok.mp hs
      split at hs <;> cases hs
  | versions d current =>
    simp only [step, readVersionLine] at hs
    split at hs
    · cases hs
    · obtain ⟨said, -, hs⟩ := bind_eq_ok.mp hs
      cases hs

/-- A line that is not blank makes a reader leave its start, and it does not come back. -/
theorem run_ne_start {ls : List (List Char)} {n : Nat} {r r' : Reader} (hr : r.run n ls = .ok r')
    (h : r ≠ .start ∨ ∃ l ∈ ls, ∃ c ∈ l, isBlank c = false) : r' ≠ .start := by
  induction ls generalizing n r with
  | nil =>
    cases hr
    simpa using h
  | cons line ls ih =>
    obtain ⟨r₁, hs, hr⟩ := run_cons_eq_ok.mp hr
    apply ih hr
    rcases h with h | ⟨l, hl, hfilled⟩
    · exact .inl (step_ne_start hs (.inl h))
    · rcases List.mem_cons.mp hl with rfl | hl
      · exact .inl (step_ne_start hs (.inr (trimEnd_ne_nil_iff.mpr hfilled)))
      · exact .inr ⟨l, hl, hfilled⟩

theorem exists_finish {r : Reader} (h : r ≠ .start) : ∃ d, r.finish = .ok d := by
  cases r with
  | start => exact absurd rfl h
  | columns d => exact ⟨_, rfl⟩
  | versions d current => exact ⟨_, rfl⟩

theorem run_congr {ls ls' : List (List Char)} (h : ls.map trimEnd = ls'.map trimEnd) (n : Nat) (r : Reader) :
    r.run n ls = r.run n ls' := by
  induction ls generalizing ls' n r with
  | nil =>
    rw [List.map_nil, eq_comm, List.map_eq_nil_iff] at h
    rw [h]
  | cons line ls ih =>
    obtain ⟨line', rest, rfl, hline, hrest⟩ := List.map_eq_cons_iff.mp h.symm
    rw [run, run, hline]
    cases r.step (trimEnd line) with
    | error fault => rfl
    | ok r₁ => exact ih hrest.symm (n + 1) r₁

theorem run_append_of_error {n : Nat} {r : Reader} {ls : List (List Char)} {f : Fault} (h : r.run n ls = .error f)
    (rest : List (List Char)) : r.run n (ls ++ rest) = .error f := by
  rw [run_append, h]
  rfl

end Reader

/-! ## Documents -/

/-- The first `n` lines of two texts are the same, up to white space at their ends. -/
def SameStart (n : Nat) (s t : List Char) : Prop :=
  ((lines s).take n).map trimEnd = ((lines t).take n).map trimEnd

namespace Definitions

theorem exists_read {text : List Char} (hfilled : ∃ l ∈ lines text, ∃ c ∈ l, isBlank c = false) {r : Reader}
    (hr : Reader.run 1 .start (lines text) = .ok r) : ∃ d, read text = .ok d := by
  obtain ⟨d, hd⟩ := Reader.exists_finish (Reader.run_ne_start hr (.inr hfilled))
  refine ⟨d, ?_⟩
  unfold read
  rw [hr]
  exact hd

theorem run_of_read_error {text : List Char} (hfilled : ∃ l ∈ lines text, ∃ c ∈ l, isBlank c = false) {f : Fault}
    (h : read text = .error f) : Reader.run 1 .start (lines text) = .error f := by
  cases hr : Reader.run 1 .start (lines text) with
  | error e =>
    unfold read at h
    rw [hr] at h
    cases h
    rfl
  | ok r =>
    obtain ⟨d, hd⟩ := exists_read hfilled hr
    rw [hd] at h
    cases h

/-- A refused document names the first line with a fault, by its number and by what is wrong with it. Every
document that starts with the lines up to that one is refused with the same fault, and the lines before it are
accepted, unless all of them are blank. -/
theorem first_fault {text : List Char} (hfilled : ∃ l ∈ lines text, ∃ c ∈ l, isBlank c = false) {f : Fault}
    (h : read text = .error f) : ∃ number fault, f = .line number fault ∧
      f.diagnostic.code.label = "D2C0001" ∧
      f.diagnostic.message = "line " ++ number.repr ++ ": " ++ fault.message ∧
      1 ≤ number ∧ number ≤ (lines text).length ∧
      (∀ text', SameStart number text' text → read text' = .error f) ∧
      ∀ front, (lines front).map trimEnd = ((lines text).take (number - 1)).map trimEnd →
        (∃ l ∈ lines front, ∃ c ∈ l, isBlank c = false) → ∃ d, read front = .ok d := by
  have hrun := run_of_read_error hfilled h
  obtain ⟨before, line, after, r, fault, hlines, hbefore, hstep, rfl⟩ := (Reader.run_eq_error_iff ..).mp hrun
  have htake : (lines text).take (1 + before.length) = before ++ [line] := by
    rw [hlines, Nat.add_comm, List.take_length_add_append]
    rfl
  have hfault : Reader.run 1 .start (before ++ [line]) = .error (.line (1 + before.length) fault) :=
    (Reader.run_eq_error_iff ..).mpr ⟨before, line, [], r, fault, rfl, hbefore, hstep, rfl⟩
  refine ⟨1 + before.length, fault, rfl, rfl, rfl, by omega, ?_, ?_, ?_⟩
  · rw [hlines, List.length_append, List.length_cons]
    omega
  · intro text' hsame
    unfold SameStart at hsame
    have hstart : Reader.run 1 .start ((lines text').take (1 + before.length)) =
        .error (.line (1 + before.length) fault) := by
      rw [Reader.run_congr hsame, htake, hfault]
    unfold read
    rw [← List.take_append_drop (1 + before.length) (lines text'), Reader.run_append_of_error hstart]
    rfl
  · intro front hfront hfilled
    have hnumber : (lines text).take (1 + before.length - 1) = before := by
      rw [hlines, Nat.add_sub_cancel_left, List.take_left]
    rw [hnumber] at hfront
    rw [← Reader.run_congr hfront] at hbefore
    exact exists_read hfilled hbefore

/-- The size on the sixth line is no number, and the seventh line is not reached. -/
def brokenText : String := "\nCOLUMNS\nint ID\n\nLAYOUT A1\nID<x32>\nBUILD 1.2\n"

theorem first_fault_broken : (∃ l ∈ lines brokenText.toList, ∃ c ∈ l, isBlank c = false) ∧
    read brokenText.toList = .error (.line 6 (.size "x32")) ∧
    (Fault.line 6 (.size "x32")).diagnostic.message = "line 6: invalid field size \"x32\"" ∧
    SameStart 6 "\nCOLUMNS\r\nint ID\n\nLAYOUT A1\nID<x32> \n$".toList brokenText.toList ∧
    read "\nCOLUMNS\r\nint ID\n\nLAYOUT A1\nID<x32> \n$".toList = .error (.line 6 (.size "x32")) ∧
    ∃ d, read "\nCOLUMNS\nint ID\n\nLAYOUT A1".toList = .ok d := by
  have hfilled : ∃ l ∈ lines brokenText.toList, ∃ c ∈ l, isBlank c = false :=
    ⟨"COLUMNS".toList, by decide +kernel, 'C', by decide, by decide⟩
  have hread : read brokenText.toList = .error (.line 6 (.size "x32")) := by decide +kernel
  have hsame : SameStart 6 "\nCOLUMNS\r\nint ID\n\nLAYOUT A1\nID<x32> \n$".toList brokenText.toList := by
    unfold SameStart
    decide +kernel
  obtain ⟨number, fault, e, -, -, -, -, hextended, hfront⟩ := first_fault hfilled hread
  cases e
  refine ⟨hfilled, hread, by decide +kernel, hsame, hextended _ hsame, ?_⟩
  refine hfront _ (by decide +kernel) ⟨"COLUMNS".toList, by decide +kernel, 'C', by decide, by decide⟩

end Definitions

end TableLayout
