import TableLayout.Artifact
import TableLayout.Files.FileSystem
import TableLayout.Files.Path

/-!
# Output files

The joined texts of all artifacts go to three files in one directory. They are either written, or compared
with what is there, which changes nothing.
-/

namespace TableLayout

inductive OutputFault
  | readExisting (path : String) (error : FileError)
  | differs (path : String)
  | createDirectory (dir : String) (error : FileError)
  | write (path : String) (error : FileError)
deriving DecidableEq, Repr

def OutputFault.chain : OutputFault → List String
  | .readExisting path error => ["read existing output: " ++ path, error.message]
  | .differs path => ["generated output differs: " ++ path]
  | .createDirectory dir error => ["create output dir: " ++ dir, error.message]
  | .write path error => ["write output: " ++ path, error.message]

def outputs (dir : String) (all : List Artifacts) : List (String × String) :=
  let joined := joinArtifacts all
  [(Path.join dir "structures.h", joined.record), (Path.join dir "metadata.h", joined.metadata),
   (Path.join dir "loadinfo.h", joined.loadInfo)]

variable {m : Type → Type} [Monad m] [FileSystem m]

def checkOutput (path text : String) : m (Except OutputFault Unit) := do
  match ← FileSystem.readText path with
  | .error error => return .error (.readExisting path error)
  | .ok current => return if current = text then .ok () else .error (.differs path)

def prepareDirectory (path : String) : m (Except OutputFault Unit) := do
  match Path.parent? path with
  | none => return .ok ()
  | some parent =>
    match ← FileSystem.createDirectories parent with
    | .error error => return .error (.createDirectory parent error)
    | .ok () => return .ok ()

def writeOutput (path text : String) : m (Except OutputFault Unit) := do
  match ← prepareDirectory path with
  | .error fault => return .error fault
  | .ok () =>
    match ← FileSystem.write path text.toUTF8 with
    | .error error => return .error (.write path error)
    | .ok () => return .ok ()

/-- Does something to one output file after another, up to the first fault. -/
def forOutputs (act : String → String → m (Except OutputFault Unit)) :
    List (String × String) → m (Except OutputFault Unit)
  | [] => return .ok ()
  | (path, text) :: rest => do
    match ← act path text with
    | .error fault => return .error fault
    | .ok () => forOutputs act rest

def writeArtifacts (dir : String) (all : List Artifacts) : m (Except OutputFault Unit) :=
  forOutputs writeOutput (outputs dir all)

/-- Succeeds if all files are there with just these contents. -/
def checkArtifacts (dir : String) (all : List Artifacts) : m (Except OutputFault Unit) :=
  forOutputs checkOutput (outputs dir all)

end TableLayout
