import TableLayout.Column
import TableLayout.Version

/-!
# Table definitions

The columns of a table in the order of their declaration, no two with one name, and its versions in the
order of theirs.
-/

namespace TableLayout

@[ext]
structure Definitions where
  columns : List Column
  versions : List Version
  distinct : (columns.map Column.name).Nodup := by decide
deriving DecidableEq, Repr

theorem nodup_names_append {cs : List Column} {c : Column} : ((cs ++ [c]).map Column.name).Nodup ↔
    (cs.map Column.name).Nodup ∧ c.name ∉ cs.map Column.name := by
  rw [List.map_append, List.map_singleton, List.nodup_append]
  constructor
  · rintro ⟨hcs, -, hdisjoint⟩
    exact ⟨hcs, fun hmem => hdisjoint _ hmem _ (List.mem_singleton_self _) rfl⟩
  · rintro ⟨hcs, hnew⟩
    refine ⟨hcs, by simp, ?_⟩
    rintro a ha b hb rfl
    exact hnew (List.mem_singleton.mp hb ▸ ha)

namespace Definitions

def ofVersions (versions : List Version) : Definitions := { columns := [], versions }

def empty : Definitions := ofVersions []

def column? (d : Definitions) (name : String) : Option Column :=
  d.columns.find? (·.name = name)

theorem isSome_column?_iff {d : Definitions} {name : String} :
    (d.column? name).isSome = true ↔ name ∈ d.columns.map Column.name := by
  simp [column?]

def withColumn (d : Definitions) (c : Column) (hc : c.name ∉ d.columns.map Column.name) : Definitions where
  columns := d.columns ++ [c]
  versions := d.versions
  distinct := nodup_names_append.mpr ⟨d.distinct, hc⟩

/-- Appends a column, or gives it back when its name is taken. -/
def pushColumn (d : Definitions) (c : Column) : Except Column Definitions :=
  if h : (d.column? c.name).isSome then .error c
  else .ok (d.withColumn c (mt isSome_column?_iff.mpr h))

def pushVersion (d : Definitions) (v : Version) : Definitions :=
  { d with versions := d.versions ++ [v] }

end Definitions

end TableLayout
