import Std.Data.TreeMap
import TableLayout.Document.Reader

/-!
# Definitions with an index

Columns stand in a row, and an index keeps the place of each under its name: it gives a place for a name exactly when
the column there has that name. A look-up asks the index first and goes to the row with the place it is given.
Documents are read into both at once.
-/

namespace TableLayout

open Text

/-- The index and the row say the same. -/
def Agrees (columns : List Column) (places : Std.TreeMap String Nat) : Prop :=
  ∀ (name : String) (place : Nat), places[name]? = some place ↔ (columns.map Column.name)[place]? = some name

namespace Agrees
variable {columns : List Column} {places : Std.TreeMap String Nat}

theorem empty : Agrees [] ∅ := by
  intro name place
  rw [Std.TreeMap.getElem?_emptyc]
  simp

theorem contains_iff (h : Agrees columns places) (name : String) :
    places.contains name = true ↔ name ∈ columns.map Column.name := by
  rw [Std.TreeMap.contains_eq_isSome_getElem?, Option.isSome_iff_exists, List.mem_iff_getElem?]
  exact exists_congr fun place => h name place

theorem nodup (h : Agrees columns places) : (columns.map Column.name).Nodup := by
  rw [List.Nodup, List.pairwise_iff_getElem]
  intro i j hi hj hij heq
  -- the index has one place for the name that stands at both
  have hfirst := (h _ i).mpr (List.getElem?_eq_getElem hi)
  have hsecond := (h _ j).mpr (List.getElem?_eq_getElem hj)
  rw [heq, hsecond, Option.some.injEq] at hfirst
  omega

/-- The new name gets the place behind the row, and the other names keep theirs. -/
theorem insert (h : Agrees columns places) {c : Column} (hc : c.name ∉ columns.map Column.name) :
    Agrees (columns ++ [c]) (places.insert c.name columns.length) := by
  intro name place
  simp only [Std.TreeMap.getElem?_insert, Std.LawfulEqCmp.compare_eq_iff_eq, List.map_append, List.map_cons,
    List.map_nil, List.getElem?_append, List.length_map]
  by_cases hname : c.name = name
  · rw [if_pos hname, Option.some.injEq]
    by_cases hplace : place < columns.length
    · rw [if_pos hplace]
      have hother : (columns.map Column.name)[place]? ≠ some name := by
        intro heq
        exact hc (hname ▸ List.mem_of_getElem? heq)
      simp only [hother, iff_false]
      omega
    · rw [if_neg hplace, List.getElem?_singleton]
      simp [hname]
      omega
  · rw [if_neg hname, h name place]
    by_cases hplace : place < columns.length
    · rw [if_pos hplace]
    · rw [if_neg hplace, List.getElem?_singleton]
      have hnone : (columns.map Column.name)[place]? = none := by simpa using hplace
      rw [hnone]
      simp [hname]

end Agrees

/-- Columns, where each of them stands, and versions. -/
structure IndexedDefinitions where
  columns : List Column
  versions : List Version
  places : Std.TreeMap String Nat
  agrees : Agrees columns places

/-- A place behind the end of the row. -/
structure PlaceFault where
  place : Nat
  length : Nat
deriving DecidableEq, Repr

namespace IndexedDefinitions

def ofVersions (versions : List Version) : IndexedDefinitions := ⟨[], versions, ∅, .empty⟩

def empty : IndexedDefinitions := ofVersions []

def toDefinitions (d : IndexedDefinitions) : Definitions := ⟨d.columns, d.versions, d.agrees.nodup⟩

/-- The column at the place that the index gives for `name`. -/
def column? (d : IndexedDefinitions) (name : String) : Except PlaceFault (Option Column) :=
  match d.places[name]? with
  | none => .ok none
  | some place =>
    match d.columns[place]? with
    | some c => .ok (some c)
    | none => .error ⟨place, d.columns.length⟩

def withColumn (d : IndexedDefinitions) (c : Column) (hc : c.name ∉ d.columns.map Column.name) :
    IndexedDefinitions where
  columns := d.columns ++ [c]
  versions := d.versions
  places := d.places.insert c.name d.columns.length
  agrees := d.agrees.insert hc

/-- Appends a column and enters its place, or gives it back when its name has been entered before. -/
def pushColumn (d : IndexedDefinitions) (c : Column) : Except Column Unit × IndexedDefinitions :=
  if h : d.places.contains c.name then (.error c, d)
  else (.ok (), d.withColumn c (mt (d.agrees.contains_iff c.name).mpr h))

def pushVersion (d : IndexedDefinitions) (v : Version) : IndexedDefinitions :=
  { d with versions := d.versions ++ [v] }

def popVersion? (d : IndexedDefinitions) : Option (Version × IndexedDefinitions) :=
  d.versions.getLast?.map fun v => (v, { d with versions := d.versions.dropLast })

end IndexedDefinitions

/-- How far a document has been read into definitions with an index. -/
inductive IndexedReader
  | start
  | columns (defs : IndexedDefinitions)
  | versions (defs : IndexedDefinitions) (current : Option Version)

namespace IndexedReader

def close (defs : IndexedDefinitions) : Option Version → IndexedDefinitions
  | some v => defs.pushVersion v
  | none => defs

/-- Appends the column of a line; its name must not have been entered before. -/
def readColumn (defs : IndexedDefinitions) (line : List Char) : Except LineFault IndexedReader := do
  let column ← Column.read line
  match defs.pushColumn column with
  | (.ok (), defs) => return .columns defs
  | (.error column, _) => throw (.duplicateColumn column.name)

/-- Takes one line, without the white space at its end; only a column line touches the index. -/
def step (line : List Char) : IndexedReader → Except LineFault IndexedReader
  | .start => if line.isEmpty then .ok .start else (Reader.readHeading line).map fun _ => .columns .empty
  | .columns defs => if line.isEmpty then .ok (.versions defs none) else readColumn defs line
  | .versions defs current =>
    if line.isEmpty then .ok (.versions (close defs current) none)
    else (VersionLine.read line).map fun said => .versions defs (some ((current.getD .empty).add said))

/-- Takes lines of which the first has the given number. -/
def run (number : Nat) (r : IndexedReader) : List (List Char) → Except Fault IndexedReader
  | [] => .ok r
  | line :: rest =>
    match r.step (trimEnd line) with
    | .error fault => .error (.line number fault)
    | .ok r => run (number + 1) r rest

def finish : IndexedReader → Except Fault IndexedDefinitions
  | .start => .error (.line 1 .emptyDocument)
  | .columns defs => .ok defs
  | .versions defs current => .ok (close defs current)

end IndexedReader

/-- Reads a definition document and enters its columns. -/
def IndexedDefinitions.read (text : List Char) : Except Fault IndexedDefinitions := do
  let r ← IndexedReader.run 1 .start (lines text)
  r.finish

end TableLayout
