import TableLayout.Artifact
import TableLayout.Document.Notices
import TableLayout.Plan
import TableLayout.Source

/-!
# Batches

Every entry of a plan is attempted on its own: one that fails is recorded and the rest goes on. An attempt
depends on the source and on its own entry only.
-/

namespace TableLayout

open Text

structure RenderOptions where
  padded : Bool
  /-- Localized strings keep a type of their own. -/
  localize : Bool
deriving DecidableEq, Repr

def RenderOptions.style (o : RenderOptions) : StructStyle := if o.padded then .padded else .plain

/-- Why an entry has no artifacts. -/
inductive Failure
  | notRetrieved (table : String)
  | compile (table : String) (fault : Fault)
  | render (table : String) (fault : Fault)
deriving DecidableEq, Repr

def Failure.chain : Failure → List String
  | .notRetrieved table => ["could not retrieve definition for table " ++ table]
  | .compile table fault => ["compile " ++ table, fault.diagnostic.text]
  | .render table fault => ["render " ++ table, fault.diagnostic.text]

def Failure.text (f : Failure) : String := ": ".intercalate f.chain

structure Product where
  compiled : Compilation
  artifacts : Artifacts
deriving DecidableEq, Repr

/-- Compiles and renders the document of a table. -/
def buildTable (document : ByteArray) (table : String) (build : Option Build) (fileId : UInt32)
    (options : RenderOptions) : Except Failure Product :=
  match compileDocument document table build fileId options.localize with
  | .error fault => .error (.compile table fault)
  | .ok compiled =>
    match compiled.render options.style with
    | .error fault => .error (.render table fault)
    | .ok artifacts => .ok ⟨compiled, artifacts⟩

/-! ## Notices -/

def fallbackNotices (d : Definitions) (build : Option Build) : List Notice :=
  match build with
  | some b =>
    if d.fallsBack build then
      [⟨.info, .resolution,
        s!"no version block covers build {b}; falling back to the last declared one"⟩]
    else []
  | none => []

def Compilation.notice (c : Compilation) : Notice :=
  ⟨.debug, .compilation,
    s!"compiled {c.table}: layout {c.layoutHash}, {c.members.length} columns"⟩

def compileNotices (document : ByteArray) (table : String) (build : Option Build) (fileId : UInt32)
    (localize : Bool) : List Notice :=
  match decodeUtf8 document with
  | .error _ => []
  | .ok text =>
    documentNotices text.toList ++
      match Definitions.read text.toList with
      | .error _ => []
      | .ok d =>
        fallbackNotices d build ++
          match d.compile table build fileId localize with
          | .ok c => [c.notice]
          | .error _ => []

/-! ## Attempts -/

structure Attempt where
  table : String
  outcome : Except Failure Product
  notices : List Notice

/-- What comes of an entry whose document has been asked for. -/
def Attempt.ofFetched (fetched : Fetched) (table : String) (build : Option Build) (fileId : UInt32)
    (options : RenderOptions) : Attempt :=
  match fetched.outcome with
  | .error fault =>
    ⟨table, .error (.notRetrieved table),
      fetched.notices ++ [⟨.debug, .program, s!"fetch {table}: {fault.text}"⟩]⟩
  | .ok document =>
    ⟨table, buildTable document table build fileId options,
      fetched.notices ++ compileNotices document table build fileId options.localize⟩

def attempt {m : Type → Type} [Monad m] (fetch : String → m Fetched) (build : Option Build)
    (options : RenderOptions) (table : String) (fileId : UInt32) : m Attempt := do
  let fetched ← fetch table
  return Attempt.ofFetched fetched table build fileId options

def runBatch {m : Type → Type} [Monad m] (fetch : String → m Fetched) (plan : Plan)
    (options : RenderOptions) : m (List Attempt) :=
  plan.tables.mapM fun (table, fileId) => attempt fetch plan.build options table fileId

namespace Attempt

def artifacts? (a : Attempt) : Option Artifacts :=
  match a.outcome with
  | .ok product => some product.artifacts
  | .error _ => none

def failure? (a : Attempt) : Option (String × String) :=
  match a.outcome with
  | .ok _ => none
  | .error failure => some (a.table, failure.text)

/-- The notices of an attempt in a batch, which warns of failures. -/
def batchNotices (a : Attempt) : List Notice :=
  a.notices ++
    match a.failure? with
    | some (table, text) => [⟨.warn, .program, s!"{table}: {text}"⟩]
    | none => []

end Attempt

def batchArtifacts (attempts : List Attempt) : List Artifacts := attempts.filterMap Attempt.artifacts?

def batchFailures (attempts : List Attempt) : List (String × String) :=
  attempts.filterMap Attempt.failure?

def batchReport (attempts : List Attempt) : String :=
  let failures := batchFailures attempts
  s!"dumped {(batchArtifacts attempts).length} tables, {failures.length} failed\n" ++
    String.join (failures.map fun (table, text) => s!"  {table}: {text}\n")

end TableLayout
