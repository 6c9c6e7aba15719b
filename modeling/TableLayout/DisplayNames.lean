import Std.Data.TreeMap
import TableLayout.Text.Case
import TableLayout.Text.Cut

/-!
# Display names

Files spell a table's name without regard to case; its definition has a spelling of its own. The last spelling
given for a name wins.
-/

namespace TableLayout

open Text

structure DisplayNames where
  /-- The spellings by the name in ASCII lower case. -/
  spellings : Std.TreeMap String String

namespace DisplayNames

def key (name : String) : String := String.ofList (asciiLower name.toList)

def empty : DisplayNames := ⟨∅⟩

def insert (d : DisplayNames) (internal friendly : String) : DisplayNames :=
  ⟨d.spellings.insert (key internal) friendly⟩

def size (d : DisplayNames) : Nat := d.spellings.size

def lookup (d : DisplayNames) (name : String) : Option String := d.spellings[key name]?

/-- The names on a trimmed line: two with a semicolon between them, or one for both. -/
def readLine (line : List Char) : String × String :=
  match cutAt ';' line with
  | some (internal, friendly) => (String.ofList (trim internal), String.ofList (trim friendly))
  | none => (String.ofList line, String.ofList line)

def ofText (text : String) : DisplayNames :=
  (((lines text.toList).map trim).filter (!·.isEmpty)).foldl
    (fun d line => d.insert (readLine line).1 (readLine line).2) empty

def ofNames (names : List String) : DisplayNames := names.foldl (fun d name => d.insert name name) empty

/-- What follows the last slash of either kind. -/
def fileName (path : List Char) : List Char :=
  (path.reverse.takeWhile fun c => c != '/' && c != '\\').reverse

/-- What precedes the last dot, or everything if there is none. -/
def stem (file : List Char) : List Char :=
  match cutAt '.' file.reverse with
  | some (_, before) => before.reverse
  | none => file

def friendly? (d : DisplayNames) (path : String) : Option String :=
  d.lookup (String.ofList (stem (fileName path.toList)))

end DisplayNames

end TableLayout
