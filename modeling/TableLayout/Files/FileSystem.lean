import TableLayout.Text.Utf8

/-!
# File systems

What the program asks of a file system. Paths are relative to a working directory unless they start with a
slash.
-/

namespace TableLayout

/-- The ways in which reading or writing a file can fail, worded as the system words them. -/
inductive FileError
  | notFound
  | alreadyExists
  | notDirectory
  | isDirectory
  | nameTooLong
  /-- A path holds the character that ends it for the system. -/
  | nulInPath
  | notText
  | other (message : String)
deriving DecidableEq, Repr

def FileError.message : FileError → String
  | .notFound => "No such file or directory (os error 2)"
  | .alreadyExists => "File exists (os error 17)"
  | .notDirectory => "Not a directory (os error 20)"
  | .isDirectory => "Is a directory (os error 21)"
  | .nameTooLong => "File name too long (os error 36)"
  | .nulInPath => "file name contained an unexpected NUL byte"
  | .notText => "stream did not contain valid UTF-8"
  | .other message => message

class FileSystem (m : Type → Type) where
  read : String → m (Except FileError ByteArray)
  /-- Writes a file whose directory exists, over what is there. -/
  write : String → ByteArray → m (Except FileError Unit)
  /-- Makes a directory and those above it that are missing. -/
  createDirectories : String → m (Except FileError Unit)
  /-- The names in a directory, in any order. -/
  list : String → m (Except FileError (List String))

namespace FileSystem

variable {m : Type → Type} [Monad m] [FileSystem m]

def readText (path : String) : m (Except FileError String) := do
  match ← read path with
  | .error e => return .error e
  | .ok bytes =>
    match Text.decodeUtf8 bytes with
    | .ok text => return .ok text
    | .error _ => return .error .notText

end FileSystem

end TableLayout
