import TableLayout.Proofs.Document.FirstFault

/-!
# White space that does not count

A document is read alike whether its lines end in a newline or in a carriage return and a newline, and whatever white
space stands at their ends. Blank lines in front only move the fault of a refused document down, and blank lines behind
the last one do nothing.
-/

namespace TableLayout

open Text

/-! ## Line ends -/

/-- The second text is the first with more white space in front of its newlines. -/
inductive PadsLines : List Char → List Char → Prop
  | nil : PadsLines [] []
  | char (c : Char) {s t : List Char} (h : PadsLines s t) : PadsLines (c :: s) (c :: t)
  | newline (blanks : List Char) {s t : List Char} (hblank : ∀ c ∈ blanks, isBlank c = true) (hline : '\n' ∉ blanks)
      (h : PadsLines s t) : PadsLines ('\n' :: s) (blanks ++ '\n' :: t)

def withReturns (s : List Char) : List Char := s.flatMap fun c => if c = '\n' then ['\r', '\n'] else [c]

theorem padsLines_withReturns (s : List Char) : PadsLines s (withReturns s) := by
  induction s with
  | nil => exact .nil
  | cons c s ih =>
    unfold withReturns at ih ⊢
    rw [List.flatMap_cons]
    by_cases hc : c = '\n'
    · rw [if_pos hc, hc]
      exact .newline ['\r'] (by decide) (by decide) ih
    · rw [if_neg hc]
      exact .char c ih

/-- White space that is put before a newline goes when the line is trimmed, also where it lengthens a line. -/
theorem map_trimEnd_lines_congr {s t : List Char} (h : PadsLines s t) (front : List Char) (hfront : '\n' ∉ front) :
    (lines (front ++ t)).map trimEnd = (lines (front ++ s)).map trimEnd := by
  induction h generalizing front with
  | nil => rfl
  | @char c s t _ ih =>
    by_cases hc : c = '\n'
    · rw [hc, lines_append_newline hfront, lines_append_newline hfront, List.map_cons, List.map_cons]
      exact congrArg _ (ih [] List.not_mem_nil)
    · have hnext := ih (front ++ [c]) (by simp [hfront, Ne.symm hc])
      rwa [List.append_assoc, List.append_assoc, List.singleton_append, List.singleton_append] at hnext
  | newline blanks hblank hline _ ih =>
    rw [← List.append_assoc, lines_append_newline (by simp [hfront, hline]), lines_append_newline hfront,
      List.map_cons, List.map_cons, trimEnd_append_blank hblank]
    exact congrArg _ (ih [] List.not_mem_nil)

def dropReturn (line : List Char) : List Char := (dropEnd? ['\r'] line).getD line

theorem trimEnd_dropReturn (line : List Char) : trimEnd (dropReturn line) = trimEnd line := by
  unfold dropReturn
  cases h : dropEnd? ['\r'] line with
  | none => rfl
  | some front =>
    rw [dropEnd?_eq_some.mp h]
    exact (trimEnd_append_blank (by decide)).symm

/-- The lines of a text of which each may end in a carriage return and a newline; what follows the last newline is
kept as it is. -/
def linesWithoutReturns (s : List Char) : List (List Char) :=
  if s.getLast? = some '\n' then (lines s).map dropReturn
  else (lines s).dropLast.map dropReturn ++ (lines s).getLast?.toList

theorem map_trimEnd_linesWithoutReturns (s : List Char) :
    (linesWithoutReturns s).map trimEnd = (lines s).map trimEnd := by
  have hdrop : ∀ ls : List (List Char), (ls.map dropReturn).map trimEnd = ls.map trimEnd := by
    intro ls
    rw [List.map_map]
    exact List.map_congr_left fun line _ => trimEnd_dropReturn line
  unfold linesWithoutReturns
  split
  · exact hdrop (lines s)
  · rcases List.eq_nil_or_concat (lines s) with h | ⟨front, last, h⟩
    · rw [h]
      rfl
    · rw [h, List.concat_eq_append, List.dropLast_concat, List.getLast?_concat, List.map_append, hdrop, List.map_append]
      rfl

/-! ## Blank lines -/

namespace Reader

theorem run_blank_start {gap : List (List Char)} (hblank : ∀ l ∈ gap, trimEnd l = []) (n : Nat) :
    run n .start gap = .ok .start := by
  induction gap generalizing n with
  | nil => rfl
  | cons line gap ih =>
    rw [run, hblank line List.mem_cons_self]
    exact ih (fun l hl => hblank l (List.mem_cons_of_mem _ hl)) (n + 1)

theorem run_blank_finish {gap : List (List Char)} (hblank : ∀ l ∈ gap, trimEnd l = []) (n : Nat) (r : Reader) :
    (run n r gap >>= finish) = r.finish := by
  by_cases hr : r = .start
  · rw [hr, run_blank_start hblank]
    rfl
  · obtain ⟨d, hd⟩ := exists_finish hr
    by_cases hgap : gap = []
    · rw [hgap]
      rfl
    · rw [run_gap hgap hblank hd, hd]
      rfl

/-- Where the count of lines starts shows in the number of a fault only. -/
theorem run_later (k n : Nat) (r : Reader) (ls : List (List Char)) :
    (∀ r', run n r ls = .ok r' → run (n + k) r ls = .ok r') ∧
    ∀ f, run n r ls = .error f →
      ∃ number fault, f = .line number fault ∧ run (n + k) r ls = .error (.line (number + k) fault) := by
  induction ls generalizing n r with
  | nil => exact ⟨fun r' h => h, fun f h => by cases h⟩
  | cons line ls ih =>
    simp only [run]
    cases r.step (trimEnd line) with
    | error fault =>
      constructor
      · intro r' h
        cases h
      · intro f h
        cases h
        exact ⟨n, fault, rfl, rfl⟩
    | ok r₁ =>
      rw [show n + k + 1 = n + 1 + k by omega]
      exact ih (n + 1) r₁

end Reader

namespace Definitions

theorem read_congr {s t : List Char} (h : (lines s).map trimEnd = (lines t).map trimEnd) : read s = read t := by
  unfold read
  rw [Reader.run_congr h]

theorem read_of_padsLines {s t : List Char} (h : PadsLines s t) : read t = read s :=
  read_congr (map_trimEnd_lines_congr h [] List.not_mem_nil)

theorem read_append_blank (text : List Char) {blanks : List Char} (hblank : ∀ c ∈ blanks, isBlank c = true) :
    read (text ++ '\n' :: blanks) = read (text ++ ['\n']) := by
  have hgap : ∀ l ∈ lines blanks, trimEnd l = [] := fun l hl =>
    trimEnd_eq_nil_iff.mpr fun c hc => hblank c (mem_of_mem_lines hl hc).1
  unfold read
  rw [lines_append_cons_newline, Reader.run_append]
  cases Reader.run 1 .start (lines (text ++ ['\n'])) with
  | error f => rfl
  | ok r => exact Reader.run_blank_finish hgap _ r

section
variable {text : List Char} (hfilled : ∃ l ∈ lines text, ∃ c ∈ l, isBlank c = false) {gap : List (List Char)}
  (hgap : ∀ l ∈ gap, '\n' ∉ l ∧ ∀ c ∈ l, isBlank c = true)
include hfilled hgap

theorem read_behind_gap :
    (∀ d, read text = .ok d → read (gap.flatMap (· ++ ['\n']) ++ text) = .ok d) ∧
    ∀ f, read text = .error f → ∃ number fault, f = .line number fault ∧
      read (gap.flatMap (· ++ ['\n']) ++ text) = .error (.line (number + gap.length) fault) := by
  have hread : read (gap.flatMap (· ++ ['\n']) ++ text) =
      Reader.run (1 + gap.length) .start (lines text) >>= Reader.finish := by
    unfold read
    rw [lines_flatMap_append fun l hl => (hgap l hl).1, Reader.run_append,
      Reader.run_blank_start fun l hl => trimEnd_eq_nil_iff.mpr (hgap l hl).2]
    rfl
  obtain ⟨hok, herror⟩ := Reader.run_later gap.length 1 .start (lines text)
  rw [hread]
  constructor
  · intro d h
    obtain ⟨r, hr, hd⟩ := bind_eq_ok.mp h
    rw [hok r hr]
    exact hd
  · intro f h
    obtain ⟨number, fault, rfl, hlater⟩ := herror f (run_of_read_error hfilled h)
    rw [hlater]
    exact ⟨number, fault, rfl, rfl⟩

end

/-- White space at the ends of lines does not count, carriage returns among it, and the lines may be cut with these or
without. Behind blank lines a document is read as before, or refused for the same fault so many lines further down;
blank lines behind a newline at the end change nothing. -/
theorem blanks_do_not_count (text : List Char) :
    read (withReturns text) = read text ∧
    (∀ padded, PadsLines text padded → read padded = read text ∧ read (withReturns padded) = read text) ∧
    (Reader.run 1 .start (linesWithoutReturns text) >>= Reader.finish) = read text ∧
    ((∃ l ∈ lines text, ∃ c ∈ l, isBlank c = false) →
      ∀ gap : List (List Char), (∀ l ∈ gap, '\n' ∉ l ∧ ∀ c ∈ l, isBlank c = true) →
        (∀ d, read text = .ok d → read (gap.flatMap (· ++ ['\n']) ++ text) = .ok d) ∧
        ∀ f, read text = .error f → ∃ number fault, f = .line number fault ∧
          read (gap.flatMap (· ++ ['\n']) ++ text) = .error (.line (number + gap.length) fault) ∧
          ∀ k, (Fault.line k fault).diagnostic = ⟨.parseError, "line " ++ k.repr ++ ": " ++ fault.message⟩) ∧
    ∀ blanks, (∀ c ∈ blanks, isBlank c = true) → read (text ++ '\n' :: blanks) = read (text ++ ['\n']) := by
  have hreturns : ∀ s, read (withReturns s) = read s := fun s => read_of_padsLines (padsLines_withReturns s)
  refine ⟨hreturns text, ?_, ?_, ?_, fun blanks => read_append_blank text⟩
  · intro padded h
    rw [hreturns, read_of_padsLines h]
    exact ⟨rfl, rfl⟩
  · rw [Reader.run_congr (map_trimEnd_linesWithoutReturns text)]
    rfl
  · intro hfilled gap hgap
    obtain ⟨hok, herror⟩ := read_behind_gap hfilled hgap
    refine ⟨hok, ?_⟩
    intro f h
    obtain ⟨number, fault, hf, hlater⟩ := herror f h
    exact ⟨number, fault, hf, hlater, fun k => rfl⟩

/-- The fault shows the line without what is put behind it. -/
theorem blanks_do_not_count_behind :
    (∃ l ∈ lines "ID\n".toList, ∃ c ∈ l, isBlank c = false) ∧
    PadsLines "ID\n".toList "ID \t\r\n".toList ∧
    read "ID\n".toList = .error (.line 1 (.noHeading "ID")) ∧
    read "ID \t\r\n".toList = .error (.line 1 (.noHeading "ID")) ∧
    read "\t\r\n\nID\n".toList = .error (.line 3 (.noHeading "ID")) ∧
    read "ID\n \n\t".toList = .error (.line 1 (.noHeading "ID")) := by
  have hfilled : ∃ l ∈ lines "ID\n".toList, ∃ c ∈ l, isBlank c = false :=
    ⟨['I', 'D'], by decide, 'I', by decide, by decide⟩
  have hpads : PadsLines "ID\n".toList "ID \t\r\n".toList :=
    .char 'I' (.char 'D' (.newline [' ', '\t', '\r'] (by decide) (by decide) .nil))
  have hread : read "ID\n".toList = .error (.line 1 (.noHeading "ID")) := by decide +kernel
  obtain ⟨-, hpadded, -, hgap, -⟩ := blanks_do_not_count "ID\n".toList
  obtain ⟨-, -, -, -, happended⟩ := blanks_do_not_count "ID".toList
  refine ⟨hfilled, hpads, hread, (hpadded _ hpads).1.trans hread, ?_, ?_⟩
  · obtain ⟨number, fault, e, hbehind, -⟩ := (hgap hfilled [['\t', '\r'], []] (by decide)).2 _ hread
    cases e
    exact hbehind
  · exact (happended " \n\t".toList (by decide)).trans hread

end Definitions

end TableLayout
