import Std.Data.TreeMap
import TableLayout.Text.Case
import TableLayout.Text.Cut
import TableLayout.Text.Numeral

/-!
# Listfiles

A listfile gives the path of every file by its number, one `number;path` a line. The last line for a number
wins; lines of another shape are passed over.
-/

namespace TableLayout

open Text

structure Listfile where
  paths : Std.TreeMap UInt32 String

namespace Listfile

def readLine (line : List Char) : Option (UInt32 × String) := do
  let (id, path) ← cutAt ';' line
  let id ← readWord (trim id)
  return (id, String.ofList (trim path))

def addLine (l : Listfile) (line : List Char) : Listfile :=
  match readLine (trim line) with
  | some (id, path) => ⟨l.paths.insert id path⟩
  | none => l

def ofText (text : String) : Listfile := (lines text.toList).foldl addLine ⟨∅⟩

def malformedLines (text : String) : Nat :=
  ((lines text.toList).map trim).countP fun line => !line.isEmpty && (readLine line).isNone

def size (l : Listfile) : Nat := l.paths.size

def path? (l : Listfile) (id : UInt32) : Option String := l.paths[id]?

/-- The least number with exactly this path, and 0 if there is none. -/
def idOf (l : Listfile) (path : String) : UInt32 :=
  match l.paths.toList.find? (·.2 = path) with
  | some (id, _) => id
  | none => 0

/-- Sorting by it puts paths in order whatever their ASCII case. -/
def pathKey (path : String) : String := String.ofList (asciiLower path.toList)

/-- The entries for client databases by path; those that differ in case only, by number. -/
def databases (l : Listfile) : List (UInt32 × String) :=
  (l.paths.toList.filter fun e => ".db2".toList.isSuffixOf e.2.toList).mergeSort
    fun a b => pathKey a.2 ≤ pathKey b.2

end Listfile

/-- The path of a table's database in a listfile. -/
def databasePath (table : String) : String :=
  "dbfilesclient/" ++ String.ofList (asciiLower table.toList) ++ ".db2"

end TableLayout
