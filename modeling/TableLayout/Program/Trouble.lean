import TableLayout.Batch
import TableLayout.Program.Output

/-!
# What ends a run

The reasons for which a command gives up, and how they are told: once on a line, and once with each cause on a
line of its own.
-/

namespace TableLayout

inductive Trouble
  | readListfile (path : String) (error : FileError)
  | readNames (path : String) (error : FileError)
  | readManifest (path : String) (error : FileError)
  | manifest (path : String) (fault : ManifestFault)
  | plan (fault : BuildFault)
  | source (fault : SourceFault)
  | table (failure : Failure)
  | output (fault : OutputFault)
  | noPlan
  | noNames
  | noOutDir
deriving DecidableEq, Repr

namespace Trouble

def chain : Trouble → List String
  | .readListfile path error => ["read listfile: " ++ path, error.message]
  | .readNames path error => ["read names: " ++ path, error.message]
  | .readManifest path error => ["read manifest: " ++ path, error.message]
  | .manifest path fault => ["manifest: " ++ path, fault.message]
  | .plan fault => [(Fault.build fault).diagnostic.text]
  | .source fault => fault.chain
  | .table failure => failure.chain
  | .output fault => fault.chain
  | .noPlan => ["batch needs --manifest or --listfile"]
  | .noNames => ["batch --listfile needs --names or --defs-dir to map storage names to table names"]
  | .noOutDir => ["batch needs --out-dir (or out_dir in the manifest)"]

/-- A cause on a line of its own, its first line after `first` and the others after `further`. -/
def causeText (first further text : String) : String :=
  "\n" ++ first ++ ("\n" ++ further).intercalate (text.splitOn "\n")

/-- The number of a cause, right-aligned in five characters. -/
def causeNumber (i : Nat) : String :=
  String.ofList (List.replicate (5 - i.repr.length) ' ') ++ i.repr ++ ": "

/-- The causes below the outermost one; only several of them are numbered. -/
def causesText : List String → String
  | [] => ""
  | [cause] => "\n\nCaused by:" ++ causeText "    " "    " cause
  | causes =>
    "\n\nCaused by:" ++
      String.join (causes.zipIdx.map fun (cause, i) => causeText (causeNumber i) "       " cause)

/-- Everything that is told about the end of a run. -/
def text (t : Trouble) : String :=
  ": ".intercalate t.chain ++ "\nError: " ++ t.chain.headD "" ++ causesText t.chain.tail ++ "\n"

end Trouble

end TableLayout
