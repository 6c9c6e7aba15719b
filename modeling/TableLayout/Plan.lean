import TableLayout.DisplayNames
import TableLayout.Fault
import TableLayout.Listfile
import TableLayout.Log.Notice
import TableLayout.Manifest

/-!
# Batch plans

What a batch is to compile, from a manifest or from the databases of a listfile that have a display name.
-/

namespace TableLayout

open Text

structure Plan where
  build : Option Build
  outDir : Option String
  padded : Bool
  /-- Table names with file numbers. -/
  tables : List (String × UInt32)
deriving DecidableEq, Repr

namespace Plan

/-- A build that is there and not blank. -/
def readBuild (text : Option String) : Except BuildFault (Option Build) :=
  match trim ((text.map String.toList).getD []) with
  | [] => .ok none
  | s => (Build.read s).map some

def ofManifest (m : Manifest) : Except BuildFault Plan := do
  let build ← readBuild m.build
  return ⟨build, m.outDir, m.padded, m.tables.map fun t => (t.name, t.fileId)⟩

def ofListfile (l : Listfile) (names : DisplayNames) (build : Option Build) : Plan where
  build := build
  outDir := none
  padded := false
  tables := l.databases.filterMap fun (id, path) => (names.friendly? path).map fun name => (name, id)

def listfileNotices (l : Listfile) (names : DisplayNames) : List Notice :=
  (l.databases.filter fun (_, path) => (names.friendly? path).isNone).map fun (id, path) =>
    ⟨.warn, .program, s!"no table name for {path} ({id}); skipping"⟩

end Plan

end TableLayout
