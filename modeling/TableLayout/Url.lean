import TableLayout.Url.Host
import TableLayout.Url.Path

/-!
# URLs

A URL has parts and is written from them in one normal form. Joining a file name replaces the last segment of
the path and drops what follows the path.
-/

namespace TableLayout

structure Authority where
  username : String
  password : Option String
  host : Host
  port : Option Nat
deriving DecidableEq, Repr

structure Url where
  scheme : String
  authority : Option Authority
  path : UrlPath
  query : Option String
  fragment : Option String
deriving DecidableEq, Repr

namespace Url

/-- The port that a special scheme implies; files have a host but no port. -/
def specialSchemes : List (String × Option Nat) :=
  [("http", some 80), ("https", some 443), ("ftp", some 21), ("ws", some 80), ("wss", some 443),
   ("file", none)]

def isSpecial (scheme : String) : Bool := (specialSchemes.lookup scheme).isSome

/-! ## Writing -/

def credentialsText (a : Authority) : String :=
  let password := match a.password with
    | some p => ":" ++ p
    | none => ""
  if a.username = "" && a.password.isNone then "" else a.username ++ password ++ "@"

def portText (a : Authority) : String :=
  match a.port with
  | some p => ":" ++ p.repr
  | none => ""

/-- What stands between the colon of the scheme and the path: without an authority, a dot keeps two slashes at the
start of the path from looking like one. -/
def authorityText (u : Url) : String :=
  match u.authority with
  | some a => "//" ++ credentialsText a ++ a.host.text ++ portText a
  | none => if "//".toList.isPrefixOf u.path.text.toList then "/." else ""

def text (u : Url) : String :=
  let query := match u.query with
    | some q => "?" ++ q
    | none => ""
  let fragment := match u.fragment with
    | some f => "#" ++ f
    | none => ""
  u.scheme ++ ":" ++ u.authorityText ++ u.path.text ++ query ++ fragment

/-- The host, if it is not empty. -/
def host? (u : Url) : Option Host := (u.authority.map (·.host)).filter (· != .name "")

/-! ## Joining -/

/-- The segments with the last one replaced by `file`; a file stands below a drive, not in its place. -/
def replaceLast (scheme : String) (segments : List String) (file : String) : List String :=
  match segments.getLast? with
  | some last =>
    if scheme = "file" && UrlPath.isDrive last then
      if segments.length = 1 then [last, file] else segments.dropLast ++ [last ++ file]
    else segments.dropLast ++ [file]
  | none => [file]

/-- The URL of a file in the directory of `u`; the name needs no encoding and holds no slash. -/
def join (u : Url) (file : String) : Except UrlFault Url :=
  match u.path with
  | .opaquePath _ => .error .relativeToOpaque
  | .segments segments =>
    .ok { u with path := .segments (replaceLast u.scheme segments file), query := none, fragment := none }

/-- The bytes of the local path that a file URL names. -/
def filePath? (u : Url) : Option (List UInt8) :=
  match u.path, u.host? with
  | .segments segments, none => some (segments.flatMap fun s => 0x2F :: Percent.decode s.toList)
  | _, _ => none

end Url

end TableLayout
