import TableLayout.Build
import TableLayout.Text.Cut
import TableLayout.Text.Numeral

/-!
# The command line

Options start with two hyphens; a value follows as the next argument or after an equals sign. Nothing may be
given twice, except for the switch that raises the log level. What breaks a rule is a usage error.
-/

namespace TableLayout

open Text

structure SourceOptions where
  defsDir : Option String
  defsUrl : Option String
  cacheDir : Option String
  noCache : Bool
  refresh : Bool
deriving DecidableEq, Repr

structure DumpOptions where
  table : String
  build : Option Build
  fileId : Option UInt32
  listfile : Option String
  source : SourceOptions
  padded : Bool
  plainStrings : Bool
  outDir : Option String
  json : Bool
  check : Bool
deriving DecidableEq, Repr

structure BatchOptions where
  manifest : Option String
  listfile : Option String
  names : Option String
  build : Option Build
  outDir : Option String
  source : SourceOptions
  padded : Bool
  plainStrings : Bool
  check : Bool
deriving DecidableEq, Repr

inductive Command
  | dump (options : DumpOptions)
  | batch (options : BatchOptions)
  | diagnostics
deriving DecidableEq, Repr

structure Invocation where
  verbosity : Nat
  command : Command
deriving DecidableEq, Repr

namespace CommandLine

/-- The options of a command; those marked true take a value. -/
abbrev Grammar := List (String × Bool)

def sourceGrammar : Grammar :=
  [("defs-dir", true), ("defs-url", true), ("cache-dir", true), ("no-cache", false), ("refresh", false)]

def renderGrammar : Grammar := [("padded", false), ("plain-strings", false)]

def dumpGrammar : Grammar :=
  [("table", true), ("build", true), ("file-data-id", true), ("listfile", true), ("out-dir", true),
   ("json", false), ("check", false)] ++ sourceGrammar ++ renderGrammar

def batchGrammar : Grammar :=
  [("manifest", true), ("listfile", true), ("names", true), ("build", true), ("out-dir", true),
   ("check", false)] ++ sourceGrammar ++ renderGrammar

/-! ## Arguments -/

/-- The options found; a switch is one with an empty value. -/
structure Given where
  verbosity : Nat
  options : List (String × String)
deriving DecidableEq, Repr

namespace Given

/-- Notes an option unless it is there already. -/
def add (g : Given) (name value : String) : Option Given :=
  if (g.options.lookup name).isSome then none
  else some { g with options := (name, value) :: g.options }

def raise (g : Given) (n : Nat) : Given := { g with verbosity := g.verbosity + n }

end Given

/-- What an argument is by its form. -/
inductive Form
  /-- How often it raises the log level. -/
  | verbose (times : Nat)
  | option (name : String)
  | assigned (name value : String)
  | terminator
  | positional
  | unknown

/-- The level switch in its short form can be repeated in one argument. -/
def shortForm (letters : List Char) : Form :=
  if letters.all (· == 'v') then .verbose letters.length else .unknown

def form (arg : String) : Form :=
  match arg.toList with
  | ['-', '-'] => .terminator
  | '-' :: '-' :: name =>
    match cutAt '=' name with
    | some (name, value) => .assigned (String.ofList name) (String.ofList value)
    | none => if name = "verbose".toList then .verbose 1 else .option (String.ofList name)
  | ['-'] => .positional
  | '-' :: letters => shortForm letters
  | _ => .positional

/-- An argument of its own that can be a value: a hyphen starts none, unless it is all of it. -/
def isValue (arg : String) : Bool :=
  match form arg with
  | .positional => true
  | _ => false

def scan (grammar : Grammar) (g : Given) : List String → Option Given
  | [] => some g
  | arg :: rest =>
    match form arg with
    | .verbose times => scan grammar (g.raise times) rest
    | .assigned name value =>
      if grammar.lookup name = some true then do scan grammar (← g.add name value) rest else none
    | .option name =>
      match grammar.lookup name, rest with
      | some false, rest => do scan grammar (← g.add name "") rest
      | some true, value :: rest =>
        if isValue value then do scan grammar (← g.add name value) rest else none
      | _, _ => none
    | .terminator => if rest.isEmpty then some g else none
    | .positional => none
    | .unknown => none

/-! ## Values -/

/-- A path, which must not be empty. -/
def path (g : Given) (name : String) : Option (Option String) :=
  match g.options.lookup name with
  | none => some none
  | some value => if value = "" then none else some (some value)

def switch (g : Given) (name : String) : Bool := (g.options.lookup name).isSome

def buildOption (g : Given) : Option (Option Build) :=
  match g.options.lookup "build" with
  | none => some none
  | some value =>
    match Build.read value.toList with
    | .ok b => some (some b)
    | .error _ => none

/-- Reads a file number; minus zero is one. -/
def readFileId (value : List Char) : Option UInt32 :=
  match value with
  | '-' :: digits => if readDigits digits = some 0 then some 0 else none
  | _ => readWord value

def fileIdOption (g : Given) : Option (Option UInt32) :=
  match g.options.lookup "file-data-id" with
  | none => some none
  | some value => (readFileId value.toList).map some

def sourceOptions (g : Given) : Option SourceOptions := do
  let defsDir ← path g "defs-dir"
  let cacheDir ← path g "cache-dir"
  return ⟨defsDir, g.options.lookup "defs-url", cacheDir, switch g "no-cache", switch g "refresh"⟩

/-! ## Commands -/

/-- A file number and a listfile exclude each other, and a check needs a directory to look at. -/
def dump (g : Given) : Option Command := do
  let table ← g.options.lookup "table"
  let build ← buildOption g
  let fileId ← fileIdOption g
  let listfile ← path g "listfile"
  let source ← sourceOptions g
  let outDir ← path g "out-dir"
  let json := switch g "json"
  let check := switch g "check"
  if fileId.isSome && listfile.isSome then none
  else if check && outDir.isNone then none
  else
    return .dump ⟨table, build, fileId, listfile, source, switch g "padded", switch g "plain-strings",
      outDir, json, check⟩

/-- A manifest and a listfile exclude each other, and a listfile needs a directory to write to. -/
def batch (g : Given) : Option Command := do
  let manifest ← path g "manifest"
  let listfile ← path g "listfile"
  let names ← path g "names"
  let build ← buildOption g
  let outDir ← path g "out-dir"
  let source ← sourceOptions g
  if manifest.isSome && listfile.isSome then none
  else if listfile.isSome && outDir.isNone then none
  else
    return .batch ⟨manifest, listfile, names, build, outDir, source, switch g "padded",
      switch g "plain-strings", switch g "check"⟩

def command (name : String) (args : List String) : Option (Nat × Command) :=
  let read (grammar : Grammar) (make : Given → Option Command) : Option (Nat × Command) := do
    let g ← scan grammar ⟨0, []⟩ args
    let c ← make g
    return (g.verbosity, c)
  match name with
  | "dump" => read dumpGrammar dump
  | "batch" => read batchGrammar batch
  | "diagnostics" => read [] fun _ => some .diagnostics
  | _ => none

/-- Reads the arguments of the program; the log level given after the command counts if it is given there. -/
def readFrom (verbosity : Nat) : List String → Option Invocation
  | [] => none
  | arg :: rest =>
    match form arg with
    | .verbose times => readFrom (verbosity + times) rest
    | .positional => do
      let (inner, c) ← command arg rest
      return ⟨if inner = 0 then verbosity else inner, c⟩
    | _ => none

def read (args : List String) : Option Invocation := readFrom 0 args

end CommandLine

end TableLayout
