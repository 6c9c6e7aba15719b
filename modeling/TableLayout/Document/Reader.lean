import TableLayout.Document.Line
import TableLayout.Fault

/-!
# Reading a definition document

A document is read line by line. After leading blank lines stands `COLUMNS`, then one line per column up to
a blank line; from there on every block of lines between blank ones is a version. What a line does depends
only on the lines before it, so the first fault is found at the first line that has one.
-/

namespace TableLayout

open Text

/-- How far a document has been read. -/
inductive Reader
  | start
  | columns (defs : Definitions)
  /-- Between versions, or inside the version `current`. -/
  | versions (defs : Definitions) (current : Option Version)
deriving DecidableEq, Repr

namespace Reader

def close (defs : Definitions) : Option Version → Definitions
  | some v => defs.pushVersion v
  | none => defs

def readHeading (line : List Char) : Except LineFault Reader :=
  if line = "COLUMNS".toList then .ok (.columns .empty)
  else .error (.noHeading (String.ofList line))

def readColumn (defs : Definitions) (line : List Char) : Except LineFault Reader := do
  let column ← Column.read line
  match defs.pushColumn column with
  | .ok defs => return .columns defs
  | .error column => throw (.duplicateColumn column.name)

def readVersionLine (defs : Definitions) (current : Option Version) (line : List Char) :
    Except LineFault Reader := do
  let said ← VersionLine.read line
  return .versions defs (some ((current.getD .empty).add said))

/-- Takes one line, without the white space at its end. -/
def step (line : List Char) : Reader → Except LineFault Reader
  | .start => if line.isEmpty then .ok .start else readHeading line
  | .columns defs => if line.isEmpty then .ok (.versions defs none) else readColumn defs line
  | .versions defs current =>
    if line.isEmpty then .ok (.versions (close defs current) none)
    else readVersionLine defs current line

/-- Takes lines of which the first has the given number. -/
def run (number : Nat) (r : Reader) : List (List Char) → Except Fault Reader
  | [] => .ok r
  | line :: rest =>
    match r.step (trimEnd line) with
    | .error fault => .error (.line number fault)
    | .ok r => run (number + 1) r rest

def finish : Reader → Except Fault Definitions
  | .start => .error (.line 1 .emptyDocument)
  | .columns defs => .ok defs
  | .versions defs current => .ok (close defs current)

end Reader

def Definitions.read (text : List Char) : Except Fault Definitions := do
  let r ← Reader.run 1 .start (lines text)
  r.finish

namespace Reader

/-! ## Runs -/

theorem run_append (n : Nat) (r : Reader) (xs ys : List (List Char)) :
    run n r (xs ++ ys) = (run n r xs >>= fun r => run (n + xs.length) r ys) := by
  induction xs generalizing n r with
  | nil => rfl
  | cons x xs ih =>
    simp only [List.cons_append, run]
    cases r.step (trimEnd x) with
    | error f => rfl
    | ok r' => simp only [ih, List.length_cons, Nat.add_assoc, Nat.add_comm 1]

/-- A refused document is refused at the first line that its reader does not take. -/
theorem run_eq_error_iff (n : Nat) (r : Reader) (ls : List (List Char)) (f : Fault) :
    run n r ls = .error f ↔ ∃ before line after r' fault,
      ls = before ++ line :: after ∧ run n r before = .ok r' ∧
      r'.step (trimEnd line) = .error fault ∧ f = .line (n + before.length) fault := by
  constructor
  · intro h
    induction ls generalizing n r with
    | nil => simp [run] at h
    | cons x xs ih =>
      rw [run] at h
      split at h
      · next fault hs => exact ⟨[], x, xs, r, fault, rfl, rfl, hs, by simpa using h.symm⟩
      · next r₁ hs =>
        obtain ⟨before, line, after, r', fault, rfl, hr, hf, rfl⟩ := ih _ _ h
        refine ⟨x :: before, line, after, r', fault, rfl, ?_, hf, ?_⟩
        · simp only [run, hs, hr]
        · simp [Nat.add_assoc, Nat.add_comm 1]
  · rintro ⟨before, line, after, r', fault, rfl, hr, hf, rfl⟩
    rw [run_append, hr]
    show run (n + before.length) r' (line :: after) = _
    simp [run, hf]

end Reader

end TableLayout
