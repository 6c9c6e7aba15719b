import TableLayout.Artifact.Reflection

/-!
# The load descriptor

One row per stored value: an array of three is three rows, numbered from 1. The descriptor refers to the
reflection record and to the statement that loads the table.
-/

namespace TableLayout

open Text

structure LoadRow where
  signed : Bool
  kind : StorageKind
  name : String
deriving DecidableEq, Repr

namespace Member

def valueNames (m : Member) : List String :=
  if m.field.isArray then
    (List.range m.field.length.toNat).map fun i => m.name ++ (i + 1).repr
  else [m.name]

def loadSigned (m : Member) : Bool := !m.field.isId && m.field.isSigned

def loadRows (m : Member) : Except Fault (List LoadRow) := do
  let kind ← m.field.kind m.column .loadInfo
  return m.valueNames.map fun name => ⟨m.loadSigned, kind, name⟩

end Member

namespace Compilation

def loadRows (c : Compilation) : Except Fault (List LoadRow) := do
  let blocks ← c.members.mapM Member.loadRows
  return blocks.flatten

end Compilation

def LoadRow.text (r : LoadRow) : String :=
  indent 2 ++ "\x7b " ++ boolText r.signed ++ ", " ++ r.kind.tag ++ ", \"" ++ r.name ++ "\" \x7d,"

/-- The identifier of the statement that loads the table's hotfixes. -/
def Compilation.statementName (c : Compilation) : String := "HOTFIX_SEL_" ++ screamingSnake c.table

def Compilation.loadInfoLines (c : Compilation) (rows : List LoadRow) : List String :=
  let count := rows.length.repr
  ["struct " ++ c.table ++ "LoadInfo",
   "\x7b",
   indent 1 ++ "static constexpr DB2FieldMeta Fields[" ++ count ++ "] =",
   indent 1 ++ "\x7b"] ++
  rows.map LoadRow.text ++
  [indent 1 ++ "\x7d;",
   "",
   indent 1 ++ "static constexpr DB2LoadInfo Instance\x7b Fields, " ++ count ++ ", &" ++ c.metaName ++
     "::Instance, " ++ c.statementName ++ " \x7d;",
   "\x7d;"]

def Compilation.loadInfoText (c : Compilation) : Except Fault String := do
  let rows ← c.loadRows
  return unlines (c.loadInfoLines rows)

end TableLayout
