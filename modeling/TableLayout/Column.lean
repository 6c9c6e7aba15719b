/-!
# Columns

A table declares each of its columns once: a name, the type that all layouts share, and the column of
another table that it points at, if any.
-/

namespace TableLayout

/-- What a column holds, whatever its width in a layout. -/
inductive ColumnType
  | int
  | float
  | string
  | localized
  /-- A declared type that has no storage of its own here. -/
  | other (token : String)
deriving DecidableEq, Repr

namespace ColumnType

def token : ColumnType → String
  | .int => "int"
  | .float => "float"
  | .string => "string"
  | .localized => "locstring"
  | .other token => token

def ofToken (s : String) : ColumnType :=
  if s = "int" then .int
  else if s = "float" then .float
  else if s = "string" then .string
  else if s = "locstring" then .localized
  else .other s

@[simp] theorem token_ofToken (s : String) : (ofToken s).token = s := by
  unfold ofToken
  split
  · next h => exact h.symm
  split
  · next h => exact h.symm
  split
  · next h => exact h.symm
  split
  · next h => exact h.symm
  · rfl

end ColumnType

structure ForeignKey where
  table : String
  column : String
deriving DecidableEq, Repr

structure Column where
  name : String
  type : ColumnType
  foreign : Option ForeignKey
  /-- The name is known; an unverified one is a guess. -/
  verified : Bool
  comment : Option String
deriving DecidableEq, Repr

end TableLayout
