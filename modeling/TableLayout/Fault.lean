import TableLayout.Diagnostic
import TableLayout.Document.LineFault
import TableLayout.Text.Utf8

/-!
# Why a table cannot be compiled

Each cause carries what its message names; code, stage and help follow from the cause.
-/

namespace TableLayout

open Text

inductive Fault
  /-- A line of a definition document, counted from 1. -/
  | line (number : Nat) (fault : LineFault)
  | notUtf8 (table : String) (fault : Utf8Fault)
  | build (fault : BuildFault)
  | noVersions
  | noLayoutHash (build : Option Build)
  | unknownColumn (table field : String)
  | unsupportedType (field type : String)
  | fieldSize (field : String) (size : UInt32)
  | localizedArray (field : String) (length : UInt32)
deriving DecidableEq, Repr

namespace Fault

def code : Fault → Code
  | line .. | notUtf8 .. => .parseError
  | build _ => .invalidBuild
  | noVersions | noLayoutHash _ => .unresolvedVersion
  | unknownColumn .. => .unknownColumn
  | unsupportedType .. => .unsupportedColumnType
  | fieldSize .. => .invalidFieldSize
  | localizedArray .. => .unsupportedLocalizedArray

def message : Fault → String
  | line number fault => s!"line {number}: {fault.message}"
  | notUtf8 table fault => s!"definition for {table} is not UTF-8: {fault.message}"
  | build fault => fault.message
  | noVersions => "definition has no version blocks"
  | noLayoutHash (some b) => s!"version block selected for build {b} has no LAYOUT hash"
  | noLayoutHash none => "version block selected for the latest version has no LAYOUT hash"
  | unknownColumn table field => s!"table {table}: field {quoted field} has no COLUMNS entry"
  | unsupportedType field type =>
    s!"unable to construct a C++ type for field {quoted field} from column type {quoted type}"
  | fieldSize field size => s!"field {quoted field} has integer size {size}"
  | localizedArray field length =>
    s!"field {quoted field} is a localized string array of length {length}"

def diagnostic (f : Fault) : Diagnostic := ⟨f.code, f.message⟩

end Fault

end TableLayout
