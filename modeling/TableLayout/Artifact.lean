import TableLayout.Artifact.LoadInfo

/-!
# The artifacts of a table

Three texts that describe one compiled table. All are written or none is. The texts of several tables are
joined with an empty line between them.
-/

namespace TableLayout

structure Artifacts where
  record : String
  metadata : String
  loadInfo : String
deriving DecidableEq, Repr

def Compilation.render (c : Compilation) (style : StructStyle) : Except Fault Artifacts := do
  let metadata ← c.metadataText
  let loadInfo ← c.loadInfoText
  return ⟨c.structureText style, metadata, loadInfo⟩

def joinArtifacts (all : List Artifacts) : Artifacts where
  record := "\n".intercalate (all.map (·.record))
  metadata := "\n".intercalate (all.map (·.metadata))
  loadInfo := "\n".intercalate (all.map (·.loadInfo))

def Artifacts.texts (a : Artifacts) : List String := [a.record, a.metadata, a.loadInfo]

end TableLayout
