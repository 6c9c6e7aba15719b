import TableLayout.Json.Reader
import TableLayout.Text.Cut
import TableLayout.Text.Numeral
import TableLayout.Text.Quoted

/-!
# Manifests

A manifest lists the tables to compile. It is a JSON object whose unknown members are passed over, or an array
of the same values in order; what may be left out has a default.
-/

namespace TableLayout

open Text

structure ManifestTable where
  name : String
  fileId : UInt32
deriving DecidableEq, Repr

structure Manifest where
  schemaVersion : String
  build : Option String
  outDir : Option String
  padded : Bool
  tables : List ManifestTable
deriving DecidableEq, Repr

inductive ManifestFault
  /-- No JSON text, or one of another shape. -/
  | malformed
  | schemaVersion (found : String)
deriving DecidableEq, Repr

/-- The version of the manifest format that is understood. -/
def manifestSchema : String := "dbd2cpp.manifest@0.1.0"

def ManifestFault.message : ManifestFault → String
  | .malformed => "parse manifest JSON"
  | .schemaVersion found =>
    s!"manifest schema_version mismatch: expected {manifestSchema} got {quoted found}"

namespace Manifest

def distinct : List String → Bool
  | [] => true
  | key :: rest => !rest.contains key && distinct rest

/-- The values of the named members; an array gives them by position, and some at its end may be missing. -/
def fields (names : List String) : Json → Option (List (Option Json))
  | .object members =>
    if distinct ((members.map (·.1)).filter names.contains) then some (names.map (members.lookup ·))
    else none
  | .array items =>
    if items.length ≤ names.length then
      some (items.map some ++ List.replicate (names.length - items.length) none)
    else none
  | _ => none

def readString : Json → Option String
  | .string s => some s
  | _ => none

/-- A text, or nothing where it is null or missing. -/
def readOptional : Option Json → Option (Option String)
  | none => some none
  | some .null => some none
  | some v => (readString v).map some

/-- A Boolean, false where it is missing. -/
def readFlag : Option Json → Option Bool
  | none => some false
  | some (.bool b) => some b
  | some _ => none

/-- A number below 2^32 in plain digits, 0 where it is missing. -/
def readId : Option Json → Option UInt32
  | none => some 0
  | some (.number literal) => if literal.all Char.isDigit then readWord literal else none
  | some _ => none

def readTable (v : Json) : Option ManifestTable := do
  match ← fields ["name", "file_data_id"] v with
  | [some name, id] =>
    let name ← readString name
    let id ← readId id
    return ⟨name, id⟩
  | _ => none

def readTables : Json → Option (List ManifestTable)
  | .array items => items.mapM readTable
  | _ => none

def ofJson (v : Json) : Option Manifest := do
  match ← fields ["schema_version", "build", "out_dir", "padded", "tables"] v with
  | [some schemaVersion, build, outDir, padded, some tables] =>
    let schemaVersion ← readString schemaVersion
    let build ← readOptional build
    let outDir ← readOptional outDir
    let padded ← readFlag padded
    let tables ← readTables tables
    return ⟨schemaVersion, build, outDir, padded, tables⟩
  | _ => none

/-- Reads a manifest; its shape is settled before its version is looked at. -/
def read (bytes : ByteArray) : Except ManifestFault Manifest :=
  match (Json.read bytes).bind ofJson with
  | none => .error .malformed
  | some m =>
    if trimmed m.schemaVersion = manifestSchema then .ok m
    else .error (.schemaVersion m.schemaVersion)

end Manifest

end TableLayout
