import TableLayout.Url.Percent

/-!
# Paths of URLs

A path is opaque text, or segments each after a slash. Segments of dots are resolved, but a segment that looks
like a drive is never left: nothing lies above it.
-/

namespace TableLayout

inductive UrlPath
  /-- Text without segments, to which nothing can be relative. -/
  | opaquePath (text : String)
  | segments (segments : List String)
deriving DecidableEq, Repr

namespace UrlPath

def text : UrlPath → String
  | .opaquePath text => text
  | .segments parts => String.join (parts.map ("/" ++ ·))

def isSlash (special : Bool) (c : Char) : Bool := c == '/' || (special && c == '\\')

def reserved : List Char := " \"#<>?`\x7b\x7d".toList

def isSingleDot (segment : String) : Bool := [".", "%2e"].contains (segment.map Char.toLower)

/-- A segment that stands for the directory above. -/
def isDoubleDot (segment : String) : Bool :=
  ["..", ".%2e", "%2e.", "%2e%2e"].contains (segment.map Char.toLower)

/-! ## Drives -/

/-- The letter of a drive, which a colon or a bar follows. -/
def driveLetter? (s : List Char) : Option Char :=
  match s with
  | [letter, mark] => if letter.isAlpha && (mark == ':' || mark == '|') then some letter else none
  | _ => none

/-- A drive, alone or before a backslash. -/
def startsWithDrive (segment : String) : Bool :=
  (driveLetter? (segment.toList.takeWhile (· != '\\'))).isSome

def isDrive (segment : String) : Bool :=
  (driveLetter? segment.toList).isSome && segment.toList.getLast? == some ':'

/-- A drive at the start of a path is written with a colon. -/
def nameDrive (segment : String) : String :=
  match driveLetter? segment.toList with
  | some letter => String.ofList [letter, ':']
  | none => segment

/-! ## Dots -/

/-- The segments of the directory above, where the latest segment comes first. -/
def leave : List String → List String
  | [] => []
  | s :: above => if startsWithDrive s then s :: above else above

/-- Resolves the dots of the segments that follow those of `above`, whose latest comes first; a path that ends in
dots ends in a slash. The path of a file may start with a drive. -/
def resolveDots (isFile : Bool) (above : List String) : List String → List String
  | [] => above.reverse
  | s :: rest =>
    if isDoubleDot s then resolveDots isFile (if rest.isEmpty then "" :: leave above else leave above) rest
    else if isSingleDot s then resolveDots isFile (if rest.isEmpty then "" :: above else above) rest
    else resolveDots isFile ((if isFile && above.isEmpty then nameDrive s else s) :: above) rest

/-- The encoded segments between slashes. -/
def split (special : Bool) (s : List Char) : List String :=
  (s.splitOnP (isSlash special)).map fun segment => String.ofList (Percent.encode reserved segment)

/-- Several slashes at the start of a path count as one. -/
def dropEmpty : List String → List String
  | "" :: s :: rest => dropEmpty (s :: rest)
  | rest => rest

end UrlPath

end TableLayout
