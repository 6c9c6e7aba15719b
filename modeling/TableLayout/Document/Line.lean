import TableLayout.Definitions
import TableLayout.Document.LineFault

/-!
# The lines of a definition document

How a column line, a heading line of a version and a field line are read. No line depends on another: what a
version line says is a value of its own, which is then added to the version.
-/

namespace TableLayout

open Text

/-- The trimmed text before the first `//`, and the trimmed text after it. -/
def splitComment (line : List Char) : List Char × Option (List Char) :=
  match cutAtPair '/' line with
  | some (body, comment) => (trim body, some (trim comment))
  | none => (trim line, none)

/-! ## Column lines -/

/-- Reads `Table::Column` up to the closing `>`; `token` is the whole type token. -/
def readForeignKey (token afterOpening : List Char) : Except LineFault ForeignKey :=
  match dropEnd? ['>'] afterOpening with
  | none => .error (.openForeignKey (String.ofList token))
  | some key =>
    match cutAtPair ':' key with
    | none => .error (.foreignKeyShape (String.ofList key))
    | some (table, column) => .ok ⟨String.ofList table, String.ofList column⟩

/-- Reads a type with an optional foreign key in angle brackets. -/
def readType (token : List Char) : Except LineFault (ColumnType × Option ForeignKey) :=
  match cutAt '<' token with
  | none => .ok (.ofToken (String.ofList token), none)
  | some (type, afterOpening) => do
    let key ← readForeignKey token afterOpening
    return (.ofToken (String.ofList type), some key)

/-- A name, and whether it lacks the question mark of a guess. -/
def readColumnName (s : List Char) : List Char × Bool :=
  match dropEnd? ['?'] (trim s) with
  | some name => (name, false)
  | none => (trim s, true)

/-- Reads `<type> <name>` with an optional comment. -/
def Column.read (line : List Char) : Except LineFault Column :=
  let (body, comment) := splitComment line
  match cutAt ' ' body with
  | none => .error (.columnShape (String.ofList body))
  | some (token, rest) => do
    let (type, foreign) ← readType token
    let (name, verified) := readColumnName rest
    if name.isEmpty then
      .error .noColumnName
    else
      .ok ⟨String.ofList name, type, foreign, verified, comment.map String.ofList⟩

/-! ## Field lines -/

/-- The list between two `$` at the front, and what follows. -/
def takeAnnotations : List Char → Except LineFault (Option (List Char) × List Char)
  | '$' :: rest =>
    match cutAt '$' rest with
    | some (list, rest) => .ok (some list, rest)
    | none => .error .openAnnotations
  | body => .ok (none, body)

def annotationItems (list : Option (List Char)) : List (List Char) :=
  match list with
  | some list => (list.splitOn ',').map trim
  | none => []

def isOpening (c : Char) : Bool := c == '<' || c == '['

/-- Reads the digits of a size, signed unless an `u` precedes them. -/
def readSize (size : List Char) : Option (Bool × UInt32) :=
  match size with
  | 'u' :: digits => (readWord digits).map fun n => (false, n)
  | digits => (readWord digits).map fun n => (true, n)

/-- Sign and size between angle brackets, and what follows; `body` is what a fault shows. -/
def takeSize (body : List Char) : List Char → Except LineFault ((Bool × UInt32) × List Char)
  | '<' :: rest =>
    match cutAt '>' rest with
    | none => .error (.openSize (String.ofList body))
    | some (size, rest) =>
      match readSize size with
      | some size => .ok (size, rest)
      | none => .error (.size (String.ofList size))
  | rest => .ok ((false, 0), rest)

/-- The length between square brackets, and what follows; `body` is what a fault shows. -/
def takeLength (body : List Char) : List Char → Except LineFault (UInt32 × List Char)
  | '[' :: rest =>
    match cutAt ']' rest with
    | none => .error (.openLength (String.ofList body))
    | some (length, rest) =>
      match readWord length with
      | some n => .ok (n, rest)
      | none => .error (.length (String.ofList length))
  | rest => .ok (0, rest)

/-- Reads `$annotations$Name<size>[length]` with an optional comment; all but the name may be left out. -/
def Field.read (line : List Char) : Except LineFault Field := do
  let (body, comment) := splitComment line
  let (annotations, body) ← takeAnnotations body
  let items := annotationItems annotations
  let name := trim (body.takeWhile (!isOpening ·))
  if name.isEmpty then throw .noFieldName
  let ((isSigned, size), rest) ← takeSize body (body.dropWhile (!isOpening ·))
  let (length, rest) ← takeLength body rest
  if !(trim rest).isEmpty then throw (.trailing (String.ofList (trim rest)))
  return {
    name := String.ofList name
    size, isSigned, length
    isId := items.contains "id".toList
    isRelation := items.contains "relation".toList
    isNonInline := items.contains "noninline".toList
    comment := comment.map String.ofList }

/-! ## Version lines -/

/-- What one line adds to a version. -/
inductive VersionLine
  | layout (hashes : List String)
  | builds (builds : List Build) (ranges : List BuildRange)
  | comment (text : String)
  | field (field : Field)
deriving DecidableEq, Repr

/-- The text after a keyword that is a word of its own. -/
def heading? (keyword line : List Char) : Option (List Char) :=
  match dropStart? keyword line with
  | some [] => some []
  | some (c :: rest) => if isBlank c then some (trim (c :: rest)) else none
  | none => none

/-- The trimmed items between commas, without the empty ones. -/
def listItems (s : List Char) : List (List Char) :=
  ((s.splitOn ',').map trim).filter (!·.isEmpty)

/-- Reads builds and ranges; an item with a hyphen is a range. -/
def readBuilds : List (List Char) → Except BuildFault (List Build × List BuildRange)
  | [] => .ok ([], [])
  | item :: items =>
    if '-' ∈ item then do
      let range ← BuildRange.read item
      let (builds, ranges) ← readBuilds items
      return (builds, range :: ranges)
    else do
      let build ← Build.read item
      let (builds, ranges) ← readBuilds items
      return (build :: builds, ranges)

def readLayout (rest : List Char) : Except LineFault VersionLine :=
  match listItems rest with
  | [] => .error .noHashes
  | hashes => .ok (.layout (hashes.map String.ofList))

def readBuildLine (rest : List Char) : Except LineFault VersionLine :=
  match listItems rest with
  | [] => .error .noBuilds
  | items =>
    match readBuilds items with
    | .ok (builds, ranges) => .ok (.builds builds ranges)
    | .error fault => .error (.build fault)

/-- Reads a line of a version: a heading by its keyword, and a field otherwise. -/
def VersionLine.read (line : List Char) : Except LineFault VersionLine :=
  match heading? "LAYOUT".toList line with
  | some rest => readLayout rest
  | none =>
    match heading? "BUILD".toList line with
    | some rest => readBuildLine rest
    | none =>
      match heading? "COMMENT".toList line with
      | some rest => .ok (.comment (String.ofList rest))
      | none => (Field.read line).map .field

/-- Adds what a line says at the end of the lists it belongs to. -/
def Version.add (v : Version) : VersionLine → Version
  | .layout hashes => { v with layoutHashes := v.layoutHashes ++ hashes }
  | .builds builds ranges => { v with builds := v.builds ++ builds, ranges := v.ranges ++ ranges }
  | .comment text => { v with comments := v.comments ++ [text] }
  | .field field => { v with fields := v.fields ++ [field] }

end TableLayout
