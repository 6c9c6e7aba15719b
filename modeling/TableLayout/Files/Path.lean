import TableLayout.Text.Cut

/-!
# Paths

Paths are kept as they are spelled, since messages show them. Joining puts a slash between two parts; the
parent drops the last component with the slashes and single dots around it.
-/

namespace TableLayout.Path

def join (base name : String) : String :=
  if base = "" then name
  else if base.toList.getLast? = some '/' then base ++ name
  else base ++ "/" ++ name

/-- Drops slashes and single dots at the front of a reversed path; a lone slash or dot stays. -/
def dropTrailing : List Char → List Char
  | ['/'] => ['/']
  | '/' :: rest => dropTrailing rest
  | '.' :: '/' :: rest => dropTrailing ('/' :: rest)
  | rest => rest

/-- The path without its last component; none for the root and the empty path. -/
def parent? (path : String) : Option String :=
  match dropTrailing path.toList.reverse with
  | [] => none
  | ['/'] => none
  | reversed => some (String.ofList (dropTrailing (reversed.dropWhile (· != '/'))).reverse)

def isAbsolute (path : String) : Bool := path.toList.head? = some '/'

/-- The components in order, without the empty ones between slashes. -/
def segments (path : String) : List String :=
  ((path.toList.splitOn '/').filter (!·.isEmpty)).map String.ofList

def endsInSlash (path : String) : Bool := path.toList.getLast? = some '/'

end TableLayout.Path
