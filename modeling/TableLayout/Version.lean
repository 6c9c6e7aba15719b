import TableLayout.Build

/-!
# Versions of a layout

A version ties layout hashes and builds to an ordered list of fields, each of which names a column.
-/

namespace TableLayout

structure Field where
  name : String
  /-- The width in bits, and 0 where the layout gives none. -/
  size : UInt32
  isSigned : Bool
  /-- The number of elements of an array, and 0 for a single value. -/
  length : UInt32
  isId : Bool
  isRelation : Bool
  isNonInline : Bool
  comment : Option String
deriving DecidableEq, Repr

namespace Field

def isArray (f : Field) : Bool := f.length != 0

/-- Relations outside the record are plain 32-bit keys, whatever their column holds. -/
def isPlainKey (f : Field) : Bool := f.isRelation && f.isNonInline

/-- Identifiers outside the record take no storage in it. -/
def isUnstored (f : Field) : Bool := f.isId && f.isNonInline

end Field

structure Version where
  layoutHashes : List String
  builds : List Build
  ranges : List BuildRange
  comments : List String
  fields : List Field
deriving DecidableEq, Repr

namespace Version

def empty : Version := ⟨[], [], [], [], []⟩

def covers (v : Version) (b : Build) : Bool :=
  v.builds.contains b || v.ranges.any (·.contains b)

/-- The first hash stands for the layout. -/
def canonicalHash? (v : Version) : Option String := v.layoutHashes.head?

end Version

end TableLayout
