import TableLayout.Files.Branch
import TableLayout.Files.FileSystem
import TableLayout.Files.Path

/-!
# File trees

A file system as a value: files and directories under their names, and a working directory. A path is walked component
by component; every component but the last must be a directory.

Hard and symbolic links and permissions are left out: what is at a place is reached by the names on the way to it
alone, and may be read and written by whoever asks. So are other programs that use the files at the same time: between
two operations of a computation the tree stays as the first one left it.
-/

namespace TableLayout

@[ext]
structure FileTree where
  /-- What is in the root. -/
  entries : Entries
  /-- The working directory, where relative paths start. -/
  home : Place
  distinct : entries.distinct = true := by decide

namespace FileTree

def node? (t : FileTree) (place : Place) : Option Node := t.entries.node? place

def put (t : FileTree) (place : Place) (node : Node) : FileTree where
  entries := t.entries.put node place
  home := t.home
  distinct := Entries.distinct_put node t.distinct place

def erase (t : FileTree) (place : Place) : FileTree where
  entries := t.entries.erase place
  home := t.home
  distinct := Entries.distinct_erase t.distinct place

def files (t : FileTree) : List (Place × ByteArray) := Entries.filesBelow [] t.entries

/-! ## Walking -/

def longestName : Nat := 255

def longestPath : Nat := 4095

/-- The place that a component leads to from a directory. -/
def enter (t : FileTree) (here : Place) (segment : String) : Except FileError Place :=
  match t.node? here with
  | none => .error .notFound
  | some (.file _) => .error .notDirectory
  | some .directory =>
    if segment = "." then .ok here
    else if segment = ".." then .ok here.dropLast
    else if longestName < segment.utf8ByteSize then .error .nameTooLong
    else .ok (here ++ [segment])

def walk (t : FileTree) (here : Place) : List String → Except FileError Place
  | [] => .ok here
  | segment :: rest => do
    let next ← t.enter here segment
    t.walk next rest

def startOf (t : FileTree) (path : String) : Place := if Path.isAbsolute path then [] else t.home

/-- Refuses the paths that lead nowhere in any tree. -/
def checkPath (path : String) : Except FileError Unit :=
  if '\x00' ∈ path.toList then .error .nulInPath
  else if path = "" then .error .notFound
  else if longestPath < path.utf8ByteSize then .error .nameTooLong
  else .ok ()

/-- The place of a path, taken or not; a slash at the end asks for a directory. -/
def locate (t : FileTree) (path : String) : Except FileError Place := do
  checkPath path
  t.walk (t.startOf path) (Path.segments path ++ if Path.endsInSlash path then ["."] else [])

/-! ## Operations -/

def read (t : FileTree) (path : String) : Except FileError ByteArray := do
  let place ← t.locate path
  match t.node? place with
  | none => .error .notFound
  | some .directory => .error .isDirectory
  | some (.file content) => .ok content

def write (t : FileTree) (path : String) (content : ByteArray) : Except FileError FileTree := do
  let place ← t.locate path
  match t.node? place with
  | some .directory => .error .isDirectory
  | _ => .ok (t.put place (.file content))

/-- The refusal of a file in the way of a directory: it stands in its place, or in the way to it. Once a directory is
made, the ones below it are asked for one by one. -/
def inTheWay (hasMade : Bool) (rest : List String) : FileError :=
  if rest.isEmpty || (hasMade && rest.any (· != ".")) then .alreadyExists else .notDirectory

/-- Makes the directories that are missing on the way from `here`. A missing one is not made if only dots follow it. -/
def createFrom (t : FileTree) (here : Place) (hasMade : Bool) : List String → Except FileError Unit × FileTree
  | [] => (.ok (), t)
  | segment :: rest =>
    match t.enter here segment with
    | .error error => (.error error, t)
    | .ok place =>
      match t.node? place with
      | some .directory => t.createFrom place hasMade rest
      | some (.file _) => (.error (inTheWay hasMade rest), t)
      | none =>
        if !rest.isEmpty && rest.all (· == ".") then (.error .notFound, t)
        else (t.put place .directory).createFrom place true rest

/-- Makes a directory and those above it that are missing; the empty path asks for nothing. -/
def createDirectories (t : FileTree) (path : String) : Except FileError Unit × FileTree :=
  if path = "" then (.ok (), t)
  else
    match checkPath path with
    | .error error => (.error error, t)
    | .ok () => t.createFrom (t.startOf path) false (Path.segments path)

def list (t : FileTree) (path : String) : Except FileError (List String) := do
  let place ← t.locate path
  match t.node? place, t.entries.names? place with
  | none, _ => .error .notFound
  | some .directory, some names => return names
  | some _, _ => .error .notDirectory

/-- A computation that reads and changes a file tree. -/
instance : FileSystem (StateM FileTree) where
  read path := fun t => (t.read path, t)
  write path content := fun t =>
    match t.write path content with
    | .ok t => (.ok (), t)
    | .error e => (.error e, t)
  createDirectories path := fun t => t.createDirectories path
  list path := fun t => (t.list path, t)

end FileTree

end TableLayout
