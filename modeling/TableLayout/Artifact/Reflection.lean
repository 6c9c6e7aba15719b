import TableLayout.Artifact.Structure

/-!
# The reflection record

What the client's reflection metadata says about a table: one row per stored field, the positions of the
identifier and of the parent, and two field counts. Identifiers outside the record have no row and count in
neither; relations outside it keep their row but are not in the file.
-/

namespace TableLayout

open Text

structure MetaRow where
  kind : StorageKind
  /-- 1 for a single value. -/
  length : UInt32
  /-- The value needs a sign, or handling by locale. -/
  signed : Bool
deriving DecidableEq, Repr

structure Reflection where
  /-- The row of the identifier, or -1. -/
  indexField : Int32
  /-- The place of the parent relation, or -1. -/
  parentIndexField : Int32
  fieldCount : UInt32
  fileFieldCount : UInt32
  rows : List MetaRow
deriving DecidableEq, Repr

namespace Member

def metaSigned (m : Member) : Bool :=
  !m.field.isId &&
    (m.field.isSigned ||
      match m.column.type with
      | .float | .string | .localized => true
      | .int | .other _ => false)

def metaRow (m : Member) : Except Fault MetaRow := do
  let kind ← m.field.kind m.column .metadata
  return ⟨kind, if m.field.length = 0 then 1 else m.field.length, m.metaSigned⟩

end Member

namespace Reflection

/-- No rows yet, and every one of `total` fields counted. -/
def initial (total : Nat) : Reflection := ⟨-1, -1, .ofNat total, .ofNat total, []⟩

/-- An identifier outside the record: no row, and not counted. -/
def skipId (r : Reflection) : Reflection :=
  { r with
    indexField := -1
    fieldCount := r.fieldCount - 1
    fileFieldCount := r.fileFieldCount - 1 }

/-- An identifier is found at the row it is about to get. -/
def noteId (r : Reflection) (f : Field) : Reflection :=
  if f.isId then { r with indexField := .ofNat r.rows.length } else r

/-- A relation is found at its place among all fields, one less where no identifier has a row. -/
def noteRelation (r : Reflection) (f : Field) (place : Nat) : Reflection :=
  if f.isRelation then
    { r with
      parentIndexField := .ofNat place + (if r.indexField = -1 then -1 else 0)
      fileFieldCount := if f.isNonInline then r.fileFieldCount - 1 else r.fileFieldCount }
  else r

/-- Takes the field at position `place`. -/
def step (r : Reflection) (place : Nat) (m : Member) : Except Fault Reflection :=
  if m.field.isUnstored then .ok r.skipId
  else do
    let r := (r.noteId m.field).noteRelation m.field place
    let row ← m.metaRow
    return { r with rows := r.rows ++ [row] }

/-- Takes the fields of which the first is at position `place`. -/
def run (r : Reflection) (place : Nat) : List Member → Except Fault Reflection
  | [] => .ok r
  | m :: rest => do
    let r ← r.step place m
    r.run (place + 1) rest

end Reflection

namespace Compilation

def reflect (c : Compilation) : Except Fault Reflection :=
  (Reflection.initial c.members.length).run 0 c.members

def metaName (c : Compilation) : String := c.table ++ "Meta"

end Compilation

def boolText (b : Bool) : String := if b then "true" else "false"

def MetaRow.text (r : MetaRow) : String :=
  indent 3 ++ "\x7b " ++ r.kind.tag ++ ", " ++ r.length.toNat.repr ++ ", " ++ boolText r.signed ++ " \x7d,"

def Compilation.metaArguments (c : Compilation) (r : Reflection) : List String :=
  [c.fileId.toNat.repr, toString r.indexField.toInt, r.fieldCount.toNat.repr, r.fileFieldCount.toNat.repr,
   "0x" ++ c.layoutHash, "fields", toString r.parentIndexField.toInt]

def Compilation.metadataLines (c : Compilation) (r : Reflection) : List String :=
  ["struct " ++ c.metaName,
   "\x7b",
   indent 1 ++ "static DB2Meta const* Instance()",
   indent 1 ++ "\x7b",
   indent 2 ++ "static constexpr DB2MetaField fields[" ++ r.rows.length.repr ++ "] =",
   indent 2 ++ "\x7b"] ++
  r.rows.map MetaRow.text ++
  [indent 2 ++ "\x7d;",
   "",
   indent 2 ++ "static constexpr DB2Meta instance(" ++ ", ".intercalate (c.metaArguments r) ++ ");",
   indent 2 ++ "return &instance;",
   indent 1 ++ "\x7d",
   "\x7d;"]

def Compilation.metadataText (c : Compilation) : Except Fault String := do
  let r ← c.reflect
  return unlines (c.metadataLines r)

end TableLayout
