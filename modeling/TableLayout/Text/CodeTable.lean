import TableLayout.Text.Numeral

/-!
# Tables of code points

A property of characters is a list of runs, each an arithmetic progression of code points: scripts that
alternate capital and small letters need every second number only.

A long table is kept as text: rows with blanks between them, all numbers hexadecimal. A row `61` is a code
point, `61-7A` a run and `100-12E+2` every second one of a run; what the table gives for the first code point
follows a colon, with points between the numbers.
-/

namespace TableLayout.Text

/-- The code points `first`, `first + step`, … up to `last`. -/
structure Run where
  first : Nat
  last : Nat
  step : Nat

def Run.has (r : Run) (n : Nat) : Bool :=
  r.first ≤ n && n ≤ r.last && (n - r.first) % r.step == 0

/-- A run, and what a table gives for its first code point. -/
structure TableRow where
  run : Run
  values : List Nat

namespace TableRow

def number (digits : List Char) : Nat := (readBase 16 digits).getD 0

def readRun (s : List Char) : Run :=
  match s.splitOn '-' with
  | [first, last] =>
    match last.splitOn '+' with
    | [last, step] => ⟨number first, number last, number step⟩
    | _ => ⟨number first, number last, 1⟩
  | _ => ⟨number s, number s, 1⟩

def read (s : List Char) : TableRow :=
  match s.splitOn ':' with
  | [run, values] => ⟨readRun run, if values.isEmpty then [] else (values.splitOn '.').map number⟩
  | _ => ⟨readRun s, []⟩

end TableRow

def readTable (s : String) : List TableRow :=
  ((s.toList.splitOnP fun c => c == ' ' || c == '\n').filter (!·.isEmpty)).map TableRow.read

/-- The runs of a table that gives no numbers. -/
def readRuns (s : String) : List Run := (readTable s).map (·.run)

/-- What a table gives for `n`: the first number of a run is its own, and the others follow it in step. -/
def lookUp (table : List TableRow) (n : Nat) : Option (List Nat) :=
  (table.find? (·.run.has n)).map fun row => row.values.map (· + (n - row.run.first))

/-- The number that is the same for a whole run. -/
def lookUpClass (table : List TableRow) (n : Nat) : Option Nat :=
  (table.find? (·.run.has n)).bind fun row => row.values.head?

end TableLayout.Text
