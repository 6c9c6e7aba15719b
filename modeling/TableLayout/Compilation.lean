import TableLayout.Digest.Sha256
import TableLayout.Document.Reader
import TableLayout.MemberName
import TableLayout.Resolution
import TableLayout.Storage

/-!
# Compiling a table

The fields of the selected version, each with the column it names, become the members of a struct, in the
order of the layout. That all fields have a column is settled before any type is.
-/

namespace TableLayout

open Text

/-- One field of the selected layout with its column and its spelling as a member. -/
structure Member where
  name : String
  type : MemberType
  field : Field
  column : Column
deriving DecidableEq, Repr

/-- The flags of a field in words, with spaces between them. -/
def Field.flagComment (f : Field) : String :=
  " ".intercalate <|
    (if f.isId then ["ID"] else []) ++ (if f.isRelation then ["Relation"] else []) ++
      (if f.isNonInline then ["Non-inline"] else [])

def Member.comment (m : Member) : String := m.field.flagComment

/-- A table whose layout has been chosen and typed. -/
structure Compilation where
  table : String
  layoutHash : String
  /-- 0 where the table's file is not known. -/
  fileId : UInt32
  members : List Member
  /-- The digest of the document, if the table was compiled from one. -/
  digest : Option String
deriving DecidableEq, Repr

namespace Definitions

def resolveFields (d : Definitions) (table : String) (fields : List Field) :
    Except Fault (List (Field × Column)) :=
  fields.mapM fun f =>
    match d.column? f.name with
    | some c => .ok (f, c)
    | none => .error (.unknownColumn table f.name)

def member (localize : Bool) (f : Field) (c : Column) : Except Fault Member :=
  (f.memberType c localize).map fun type => ⟨memberName c.type f.name, type, f, c⟩

def members (d : Definitions) (table : String) (localize : Bool) (fields : List Field) :
    Except Fault (List Member) := do
  let resolved ← d.resolveFields table fields
  resolved.mapM fun (f, c) => member localize f c

def compile (d : Definitions) (table : String) (build : Option Build) (fileId : UInt32)
    (localize : Bool) : Except Fault Compilation := do
  let (version, hash) ← d.resolve build
  let members ← d.members table localize version.fields
  return ⟨table, hash, fileId, members, none⟩

/-- Compiles with the hash looked up once more in the resolved version. That it is gone would be a bug. -/
def compileGuarded (d : Definitions) (table : String) (build : Option Build) (fileId : UInt32)
    (localize : Bool) : Except Diagnostic Compilation :=
  match d.resolve build with
  | .error fault => .error fault.diagnostic
  | .ok (version, _) =>
    match version.canonicalHash? with
    | none => .error ⟨.internalBug, "resolved version lost its layout hash"⟩
    | some hash =>
      ((d.members table localize version.fields).map (⟨table, hash, fileId, ·, none⟩)).mapError Fault.diagnostic

end Definitions

def readDocument (document : ByteArray) (table : String) : Except Fault Definitions :=
  match decodeUtf8 document with
  | .ok text => Definitions.read text.toList
  | .error fault => .error (.notUtf8 table fault)

def compileDocument (document : ByteArray) (table : String) (build : Option Build) (fileId : UInt32)
    (localize : Bool) : Except Fault Compilation := do
  let defs ← readDocument document table
  let compiled ← defs.compile table build fileId localize
  return { compiled with digest := some (Sha256.hexDigest document) }

end TableLayout
