import TableLayout.Files.FileSystem
import TableLayout.Files.Path
import TableLayout.Log.Notice
import TableLayout.Text.Cut
import TableLayout.Text.Quoted
import TableLayout.Text.Utf8
import TableLayout.Url.Reader

/-!
# Sources of documents

Documents come from a directory or from below a base URL, with or without a cache in front. The name of a
table is trimmed and checked before any file is touched, so that it stays inside its directory.
-/

namespace TableLayout

open Text

/-- The parts of a file URL, in the form in which a message lists them. -/
def Url.partsText (u : Url) : String :=
  let host := match u.host? with
    | some host => "Some(" ++ host.described ++ ")"
    | none => "None"
  "Url \x7b scheme: " ++ quoted u.scheme ++ ", cannot_be_a_base: false, username: \"\", password: None, host: " ++
    host ++ ", port: None, path: " ++ quoted u.path.text ++ ", query: None, fragment: None \x7d"

inductive SourceFault
  | emptyName
  | badName (name : String)
  | read (path : String) (error : FileError)
  | list (dir : String) (error : FileError)
  | createDirectory (dir : String) (error : FileError)
  | write (path : String) (error : FileError)
  | badUrl (text : String) (fault : UrlFault)
  | noTrailingSlash (url : String)
  | join (file : String) (fault : UrlFault)
  | unsupportedScheme (scheme url : String)
  | remoteHost (url : Url)
  | offline (url : String)
  | noCacheHome
deriving DecidableEq, Repr

/-- Where definitions are fetched from unless another place is named. -/
def defaultBaseUrl : String := "https://raw.githubusercontent.com/wowdev/WoWDBDefs/master/definitions/"

namespace SourceFault

def chain : SourceFault → List String
  | .emptyName => ["table name must be non-empty"]
  | .badName name => [s!"table name contains invalid characters: {quoted name}"]
  | .read path error => [s!"read {path}", error.message]
  | .list dir error => [s!"read dir {dir}", error.message]
  | .createDirectory dir error => [s!"create dir: {dir}", error.message]
  | .write path error => [s!"write {path}", error.message]
  | .badUrl text fault => [s!"invalid definitions url: {quoted text} (expected URL)", fault.message]
  | .noTrailingSlash url =>
    [s!"definitions url must end with '/': got {quoted url} (example: {defaultBaseUrl})"]
  | .join file fault => [s!"definitions url join: {quoted file}", fault.message]
  | .unsupportedScheme scheme url => [s!"unsupported url scheme {quoted scheme} for {url}"]
  | .remoteHost url => [s!"file url could not be converted to a path: {url.partsText}"]
  | .offline url => [s!"http GET {url}: no network"]
  | .noCacheHome => ["missing HOME/USERPROFILE; set DBD2CPP_HOME to choose a cache location"]

def text (f : SourceFault) : String := ": ".intercalate f.chain

end SourceFault

/-! ## Names -/

def isNameChar (c : Char) : Bool := c.isAlphanum || c == '_'

def documentFile (table : String) : Except SourceFault String :=
  let name := trim table.toList
  if name.isEmpty then .error .emptyName
  else if name.all isNameChar then .ok (String.ofList name ++ ".dbd")
  else .error (.badName (String.ofList name))

def documentPath (dir table : String) : Except SourceFault String :=
  (documentFile table).map (Path.join dir ·)

/-- The table whose document has this file name; a name that is only an extension has none. -/
def tableOfFile? (file : String) : Option String :=
  match dropEnd? ".dbd".toList file.toList with
  | some [] => none
  | some name => some (String.ofList name)
  | none => none

/-! ## Base URLs -/

/-- Reads a base URL, which must end in a slash. -/
def readBaseUrl (text : String) : Except SourceFault Url :=
  match Url.read text with
  | .error fault => .error (.badUrl text fault)
  | .ok url =>
    if url.text.toList.getLast? = some '/' then .ok url else .error (.noTrailingSlash url.text)

def documentUrl (base : Url) (table : String) : Except SourceFault Url := do
  let file ← documentFile table
  match base.join file with
  | .ok url => return url
  | .error fault => throw (.join file fault)

/-! ## Fetching -/

/-- What a source answers, and what it remarks. -/
structure Fetched where
  outcome : Except SourceFault ByteArray
  notices : List Notice

/-- Where documents are kept. -/
inductive Origin
  | directory (dir : String)
  | web (base : Url)
deriving DecidableEq, Repr

variable {m : Type → Type} [Monad m] [FileSystem m]

def readDocumentAt (path : String) : m (Except SourceFault ByteArray) := do
  match ← FileSystem.read path with
  | .ok bytes => return .ok bytes
  | .error error => return .error (.read path error)

def fetchFromDirectory (dir table : String) : m (Except SourceFault ByteArray) :=
  match documentPath dir table with
  | .error fault => return .error fault
  | .ok path => readDocumentAt path

/-- Reads a document whose path is given in bytes; no file has a name that is not text. -/
def readDocumentAtBytes (path : List UInt8) : m (Except SourceFault ByteArray) :=
  match String.fromUTF8? ⟨path.toArray⟩ with
  | some path => readDocumentAt path
  | none => return .error (.read (lossyText path) (if path.contains 0 then .nulInPath else .notFound))

/-- Fetches what a URL names; only local files can be reached. -/
def fetchUrl (url : Url) : m (Except SourceFault ByteArray) :=
  match url.scheme with
  | "file" =>
    match url.filePath? with
    | some path => readDocumentAtBytes path
    | none => return .error (.remoteHost url)
  | "http" | "https" => return .error (.offline url.text)
  | scheme => return .error (.unsupportedScheme scheme url.text)

namespace Origin

def fetch (o : Origin) (table : String) : m Fetched := do
  match o with
  | .directory dir =>
    let outcome ← fetchFromDirectory dir table
    return ⟨outcome, []⟩
  | .web base =>
    match documentUrl base table with
    | .error fault => return ⟨.error fault, []⟩
    | .ok url =>
      let outcome ← fetchUrl url
      return ⟨outcome, [⟨.debug, .source, s!"fetching {url.text}"⟩]⟩

end Origin

/-! ## The cache -/

/-- Keeps copies of documents in a directory. -/
structure Cache where
  dir : String
  /-- Copies are never used, only written. -/
  refresh : Bool
deriving DecidableEq, Repr

namespace Cache

def path (c : Cache) (table : String) : Except SourceFault String := documentPath c.dir table

/-- Stores a fetched document under `path`. -/
def store (c : Cache) (path : String) (document : ByteArray) : m (Except SourceFault ByteArray) := do
  match ← FileSystem.createDirectories c.dir with
  | .error error => return .error (.createDirectory c.dir error)
  | .ok () =>
    match ← FileSystem.write path document with
    | .error error => return .error (.write path error)
    | .ok () => return .ok document

/-- Asks `inner` for a document that has no usable copy, and stores it. -/
def fill (c : Cache) (inner : String → m Fetched) (table path : String) : m Fetched := do
  let miss : Notice := ⟨.debug, .source, s!"cache miss: {path}"⟩
  let fetched ← inner table
  match fetched.outcome with
  | .error fault => return ⟨.error fault, miss :: fetched.notices⟩
  | .ok document =>
    let outcome ← c.store path document
    return ⟨outcome, miss :: fetched.notices⟩

/-- Answers from the stored copy, or from `inner` where there is none or none may be used. -/
def fetch (c : Cache) (inner : String → m Fetched) (table : String) : m Fetched := do
  match c.path table with
  | .error fault => return ⟨.error fault, []⟩
  | .ok path =>
    if c.refresh then
      c.fill inner table path
    else
      match ← FileSystem.read path with
      | .ok document => return ⟨.ok document, [⟨.debug, .source, s!"cache hit: {path}"⟩]⟩
      | .error .notFound => c.fill inner table path
      | .error error => return ⟨.error (.read path error), []⟩

end Cache

/-- An origin with an optional cache in front. -/
structure Source where
  origin : Origin
  cache : Option Cache
deriving DecidableEq, Repr

def Source.fetch (s : Source) (table : String) : m Fetched :=
  match s.cache with
  | some cache => cache.fetch s.origin.fetch table
  | none => s.origin.fetch table

/-- The tables that have a document in a directory, in order. -/
def tableNames (dir : String) : m (Except SourceFault (List String)) := do
  match ← FileSystem.list dir with
  | .ok files => return .ok ((files.filterMap tableOfFile?).mergeSort fun a b => a ≤ b)
  | .error error => return .error (.list dir error)

end TableLayout
