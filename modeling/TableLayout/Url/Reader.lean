import TableLayout.Text.Cut
import TableLayout.Url

/-!
# Reading URLs

Reading brings a URL into its normal form: scheme and domain in lower case, no port that goes without saying,
dot segments resolved, and reserved characters percent-encoded.
-/

namespace TableLayout.Url

open Text

/-- Drops the controls and spaces around a text, and the tabs and line ends inside it. -/
def clean (s : List Char) : List Char :=
  let isEdge (c : Char) : Bool := c.toNat ≤ 0x20
  (((s.dropWhile isEdge).reverse.dropWhile isEdge).reverse).filter
    fun c => c != '\t' && c != '\n' && c != '\r'

def isSchemeChar (c : Char) : Bool := c.isAlphanum || c == '+' || c == '-' || c == '.'

/-- The scheme in lower case, and what follows its colon. -/
def takeScheme (s : List Char) : Option (String × List Char) :=
  match s.span isSchemeChar with
  | (c :: name, ':' :: rest) =>
    if c.isAlpha then some (String.ofList ((c :: name).map Char.toLower), rest) else none
  | _ => none

/-- A part of a URL ends before a slash, the query or the fragment. -/
def endsPart (special : Bool) (c : Char) : Bool := UrlPath.isSlash special c || c == '?' || c == '#'

def credentialReserved : List Char := " \"#<>?`\x7b\x7d/:;=@[\\]^|".toList

def queryReserved (special : Bool) : List Char :=
  if special then " \"#<>'".toList else " \"#<>".toList

def fragmentReserved : List Char := " \"<>`".toList

/-! ## After the authority -/

def readTail (special : Bool) (s : List Char) : Option String × Option String :=
  let (beforeFragment, fragment) := match cutAt '#' s with
    | some (before, after) => (before, some (String.ofList (Percent.encode fragmentReserved after)))
    | none => (s, none)
  match beforeFragment with
  | '?' :: query => (some (String.ofList (Percent.encode (queryReserved special) query)), fragment)
  | _ => (none, fragment)

def takePath (s : List Char) : List Char × List Char := s.span fun c => c != '?' && c != '#'

/-- The path without its first slash, if it has one. -/
def dropSlash (special : Bool) (path : List Char) : List Char :=
  match path with
  | c :: below => if UrlPath.isSlash special c then below else path
  | [] => []

/-- Reads path, query and fragment; only the path of a special URL is never empty. -/
def finish (scheme : String) (authority : Option Authority) (s : List Char) : Url :=
  let special := isSpecial scheme
  let (path, rest) := takePath s
  let (query, fragment) := readTail special rest
  let segments :=
    if path.isEmpty && !special then []
    else UrlPath.resolveDots false [] (UrlPath.split special (dropSlash special path))
  ⟨scheme, authority, .segments segments, query, fragment⟩

/-! ## The authority -/

/-- Reads a port; the one that the scheme implies is left out. -/
def readPort (scheme : String) (s : List Char) : Except UrlFault (Option Nat) :=
  if s.isEmpty then .ok none
  else
    match readDigits s with
    | some n =>
      if n < 65536 then .ok (if specialSchemes.lookup scheme = some (some n) then none else some n)
      else .error .port
    | none => .error .port

/-- What follows the last `@`, and the user name and password before it. -/
def takeCredentials (s : List Char) : (String × Option String) × List Char :=
  let encode (t : List Char) := String.ofList (Percent.encode credentialReserved t)
  match cutAt '@' s.reverse with
  | none => (("", none), s)
  | some (host, credentials) =>
    match cutAt ':' credentials.reverse with
    | some (user, password) =>
      ((encode user, if password.isEmpty then none else some (encode password)), host.reverse)
    | none => ((encode credentials.reverse, none), host.reverse)

/-- The host, and what follows it with its colon; colons inside brackets belong to the host. -/
def takeHost (bracketed : Bool) : List Char → List Char × List Char
  | [] => ([], [])
  | c :: rest =>
    if c = ':' && !bracketed then ([], c :: rest)
    else
      let (host, after) := takeHost (if c = '[' then true else if c = ']' then false else bracketed) rest
      (c :: host, after)

/-- An empty host stands alone, without credentials and port, and in no special URL. -/
def mayBeEmpty (special : Bool) (credentials : String × Option String) (after : List Char) : Bool :=
  !special && credentials == ("", none) && after.isEmpty

/-- Reads an authority, which `rest` follows, and gives what the path starts with. Only `@` alone may not stand
before a path. A port ends at a backslash, even where that is no slash. -/
def readAuthority (scheme : String) (s rest : List Char) : Except UrlFault (Authority × List Char) := do
  let special := isSpecial scheme
  let (credentials, s) ← if s = ['@'] && !rest.isEmpty then throw .emptyHost else pure (takeCredentials s)
  let (name, after) := takeHost false s
  let host ← if special then Host.readSpecial name else Host.readOther name
  if name.isEmpty && !mayBeEmpty special credentials after then throw .emptyHost
  let (port, below) := (after.drop 1).span (· != '\\')
  let port ← readPort scheme port
  return (⟨credentials.1, credentials.2, host, port⟩, below ++ rest)

/-- Reads what follows the slashes before an authority. -/
def readFromAuthority (scheme : String) (s : List Char) : Except UrlFault Url := do
  let (authority, rest) := s.span (!endsPart (isSpecial scheme) ·)
  let (authority, rest) ← readAuthority scheme authority rest
  return finish scheme (some authority) rest

/-! ## Files -/

/-- A file with its segments. -/
def ofFile (host : Host) (segments : List String) (rest : List Char) : Url :=
  let (query, fragment) := readTail true rest
  ⟨"file", some ⟨"", none, host, none⟩, .segments (UrlPath.dropEmpty segments), query, fragment⟩

def readLocal (s : List Char) : Url :=
  let (path, rest) := takePath s
  ofFile (.name "") (UrlPath.resolveDots true [] (UrlPath.split true path)) rest

/-- A file on a host; no drive is on another one. -/
def readRemote (host : Host) (s : List Char) : Url :=
  let (path, rest) := takePath s
  let segments := UrlPath.resolveDots true [] (UrlPath.split true (dropSlash true path))
  ofFile (if segments.head?.any UrlPath.isDrive then .name "" else host) segments rest

/-- Reads what follows the two slashes of a file; a drive is no host, and the local host goes without saying. -/
def readFromHost (s : List Char) : Except UrlFault Url := do
  let (name, rest) := s.span (!endsPart true ·)
  if (UrlPath.driveLetter? name).isSome then return readLocal s
  let host ← if name.isEmpty then pure (.name "") else Host.readSpecial name
  if host = .name "" || host = .name "localhost" then return readLocal rest
  return readRemote host rest

def readFile (s : List Char) : Except UrlFault Url :=
  match s with
  | a :: b :: rest =>
    if UrlPath.isSlash true a then
      if UrlPath.isSlash true b then readFromHost rest else .ok (readLocal (b :: rest))
    else .ok (readLocal s)
  | _ => .ok (readLocal (dropSlash true s))

/-! ## All URLs -/

/-- Reads what follows the colon of a scheme without rules of its own. -/
def readOther (scheme : String) (s : List Char) : Except UrlFault Url :=
  match s with
  | '/' :: '/' :: rest => readFromAuthority scheme rest
  | '/' :: _ => .ok (finish scheme none s)
  | _ =>
    let (path, rest) := takePath s
    let (query, fragment) := readTail false rest
    .ok ⟨scheme, none, .opaquePath (String.ofList (Percent.encode [] path)), query, fragment⟩

def read (s : String) : Except UrlFault Url :=
  match takeScheme (clean s.toList) with
  | none => .error .relativeWithoutBase
  | some (scheme, rest) =>
    if scheme = "file" then readFile rest
    else if isSpecial scheme then readFromAuthority scheme (rest.dropWhile (UrlPath.isSlash true))
    else readOther scheme rest

end TableLayout.Url
