import TableLayout.Log.Filter
import TableLayout.Program.CommandLine
import TableLayout.Program.Report
import TableLayout.Program.Trouble

/-!
# Running a command

A run reads and writes files and says what it has to say on two channels. Notices pass a filter, and what
stops the run is told last.
-/

namespace TableLayout

open Text

abbrev Environment := String → Option String

/-- What a run has said so far. -/
structure Console where
  filter : LogFilter
  out : String
  err : String

/-- What is left of a run; a usage error is not worded. -/
structure Outcome where
  exitCode : Nat
  stdout : String
  stderr : Option String
deriving DecidableEq, Repr

abbrev Session (m : Type → Type) := ExceptT Trouble (StateT Console m)

section

variable {m : Type → Type} [Monad m]

def print (text : String) : Session m Unit := modify fun c => { c with out := c.out ++ text }

def complain (text : String) : Session m Unit := modify fun c => { c with err := c.err ++ text }

def say (notices : List Notice) : Session m Unit :=
  modify fun c =>
    { c with err := c.err ++ String.join ((notices.filter c.filter.passes).map Notice.line) }

/-- Goes on with a result, or stops with its fault. -/
def demand {ε α : Type} (trouble : ε → Trouble) (result : m (Except ε α)) : Session m α := do
  match ← (result : m (Except ε α)) with
  | .ok a => return a
  | .error e => throw (trouble e)

variable [FileSystem m]

/-! ## Inputs -/

def readListfile (path : String) : Session m Listfile := do
  let text ← demand (.readListfile path) (FileSystem.readText path)
  let listfile := Listfile.ofText text
  let malformed := Listfile.malformedLines text
  if malformed ≠ 0 then
    say [⟨.debug, .listfile, s!"listfile: skipped {malformed} malformed lines"⟩]
  say [⟨.info, .program, s!"listfile {path}: {listfile.size} entries"⟩]
  return listfile

def readManifest (path : String) : Session m Manifest := do
  let bytes ← demand (.readManifest path) (FileSystem.read path)
  demand (.manifest path) (pure (Manifest.read bytes))

/-- The base URL that the environment names. -/
def environmentUrl (env : Environment) : String :=
  match env "DBD2CPP_DEFS_URL" with
  | some url => if trimmed url = "" then defaultBaseUrl else trimmed url
  | none => defaultBaseUrl

/-- Where copies are kept unless another place is named. -/
def defaultCacheDir (env : Environment) : Except SourceFault String :=
  match env "DBD2CPP_HOME", env "HOME", env "USERPROFILE" with
  | some dir, _, _ => .ok (Path.join dir "cache")
  | none, some home, _ => .ok (Path.join (Path.join home ".dbd2cpp") "cache")
  | none, none, some home => .ok (Path.join (Path.join home ".dbd2cpp") "cache")
  | none, none, none => .error .noCacheHome

def openSource (env : Environment) (o : SourceOptions) : Session m Source := do
  match o.defsDir with
  | some dir => return ⟨.directory dir, none⟩
  | none =>
    let base ← demand .source (pure (readBaseUrl (o.defsUrl.getD (environmentUrl env))))
    if o.noCache then
      return ⟨.web base, none⟩
    let dir ← demand .source (pure (match o.cacheDir with
      | some dir => .ok dir
      | none => defaultCacheDir env))
    say [⟨.info, .program, s!"definitions from {base.text} (cache {dir})"⟩]
    return ⟨.web base, some ⟨dir, o.refresh⟩⟩

/-! ## Commands -/

def deliver (dir : String) (all : List Artifacts) (check : Bool) : Session m Unit :=
  demand .output (if check then checkArtifacts dir all else writeArtifacts dir all)

/-- The file number of a table, given as such or looked up in a listfile. -/
def tableId (o : DumpOptions) : Session m UInt32 :=
  match o.fileId, o.listfile with
  | some id, _ => return id
  | none, some path => do
    let listfile ← readListfile path
    return listfile.idOf (databasePath o.table)
  | none, none => return 0

def runDump (env : Environment) (o : DumpOptions) : Session m Unit := do
  let id ← tableId o
  let source ← openSource env o.source
  let attempt ← (attempt source.fetch o.build ⟨o.padded, !o.plainStrings⟩ o.table id : m Attempt)
  say attempt.notices
  let product ← demand .table (pure attempt.outcome)
  if o.json then
    print (reportText product.compiled product.artifacts)
  match o.outDir with
  | some dir => deliver dir [product.artifacts] o.check
  | none =>
    if !o.json then
      print ("\n".intercalate (joinArtifacts [product.artifacts]).texts)

/-- The display names for a listfile: of a file, or of the documents in a directory. -/
def displayNames (o : BatchOptions) : Session m DisplayNames :=
  match o.names, o.source.defsDir with
  | some path, _ => do
    let text ← demand (.readNames path) (FileSystem.readText path)
    return .ofText text
  | none, some dir => do
    let names ← demand .source (tableNames dir)
    return .ofNames names
  | none, none => throw .noNames

/-- The plan of a batch; a build given with the command replaces that of a manifest. -/
def batchPlan (o : BatchOptions) : Session m Plan :=
  match o.manifest, o.listfile with
  | some path, _ => do
    let manifest ← readManifest path
    let plan ← demand .plan (pure (Plan.ofManifest manifest))
    return { plan with build := o.build.or plan.build }
  | none, some path => do
    let names ← displayNames o
    let listfile ← readListfile path
    say (Plan.listfileNotices listfile names)
    return .ofListfile listfile names o.build
  | none, none => throw .noPlan

def runBatchCommand (env : Environment) (o : BatchOptions) : Session m Unit := do
  let plan ← batchPlan o
  match o.outDir.or plan.outDir with
  | none => throw .noOutDir
  | some dir =>
    let source ← openSource env o.source
    let attempts ←
      (runBatch source.fetch plan ⟨o.padded || plan.padded, !o.plainStrings⟩ : m (List Attempt))
    say (attempts.flatMap Attempt.batchNotices)
    complain (batchReport attempts)
    deliver dir (batchArtifacts attempts) o.check

def runCommand (env : Environment) (c : Command) : Session m Unit :=
  match c with
  | .dump o => runDump env o
  | .batch o => runBatchCommand env o
  | .diagnostics => print catalog

def verbositySpec : Nat → String
  | 0 => "warn"
  | 1 => "info"
  | _ => "debug"

def run (env : Environment) (args : List String) : m Outcome := do
  match CommandLine.read args with
  | none => return ⟨2, "", none⟩
  | some invocation =>
    let spec := (env "RUST_LOG").getD (verbositySpec invocation.verbosity)
    let (filter, complaints) := LogFilter.ofText spec
    let (result, console) ← (runCommand env invocation.command : Session m Unit).run.run
      ⟨filter, "", complaints⟩
    match result with
    | .ok () => return ⟨0, console.out, some console.err⟩
    | .error trouble => return ⟨1, console.out, some (console.err ++ trouble.text)⟩

end

end TableLayout
