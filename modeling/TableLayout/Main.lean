import TableLayout.Program.Run

/-!
# The program

Runs a command on the files of the system, with the variables of its environment.
-/

namespace TableLayout

def fileError (e : IO.Error) : FileError :=
  match e with
  | .noFileOrDirectory .. => .notFound
  | .alreadyExists .. => .alreadyExists
  | .invalidArgument _ 36 _ => .nameTooLong
  | .inappropriateType _ code _ => if code = 20 then .notDirectory else .isDirectory
  | e => .other (toString e)

def attemptFile {α : Type} (action : IO α) : IO (Except FileError α) := do
  try
    let a ← action
    return .ok a
  catch e => return .error (fileError e)

instance : FileSystem IO where
  read path := attemptFile (IO.FS.readBinFile path)
  write path content := attemptFile (IO.FS.writeBinFile path content)
  createDirectories path :=
    if path = "" then return .ok () else attemptFile (IO.FS.createDirAll path)
  list path := attemptFile do
    let entries ← (System.mkFilePath [path]).readDir
    return (entries.map (·.fileName)).toList

/-- The variables that a run may ask for. -/
def variableNames : List String :=
  ["RUST_LOG", "HOME", "USERPROFILE", "DBD2CPP_HOME", "DBD2CPP_DEFS_URL"]

def readEnvironment : IO Environment := do
  let values ← variableNames.mapM fun name => return (name, ← IO.getEnv name)
  return fun name => (values.lookup name).join

end TableLayout

def main (args : List String) : IO UInt32 := do
  let env ← TableLayout.readEnvironment
  let outcome ← (TableLayout.run env args : IO TableLayout.Outcome)
  (← IO.getStdout).putStr outcome.stdout
  (← IO.getStderr).putStr
    (outcome.stderr.getD "usage: dbd2cpp [-v] dump|batch|diagnostics [options]\n")
  return outcome.exitCode.toUInt32
