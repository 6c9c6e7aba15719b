import TableLayout.Text.CodeTable
import TableLayout.Url.Domain.MappingTable

/-!
# The characters of domains

Characters that are spelled in several ways are mapped to one of them, some are left out, and only the valid
ones stand for themselves.
-/

namespace TableLayout.Domain

open Text

/-- What characters stand for; nothing for those that are left out. -/
def mappings : List TableRow := readTable mappingsText

def validRuns : List Run := readRuns validText

def markRuns : List Run := readRuns marksText

/-- Stands for itself in a domain; every ASCII character but a capital does. -/
def isValid (c : Char) : Bool :=
  if c.toNat < 0x80 then !c.isUpper else validRuns.any (·.has c.toNat)

/-- A combining mark, which no label starts with. -/
def isMark (c : Char) : Bool := 0x300 ≤ c.toNat && markRuns.any (·.has c.toNat)

/-- What a character stands for in a domain. -/
def mapChar (c : Char) : Option (List Char) :=
  if c.toNat < 0x80 then some [c.toLower]
  else
    match lookUp mappings c.toNat with
    | some codes => some (codes.map Char.ofNat)
    | none => if isValid c then some [c] else none

/-- The text that a domain stands for. -/
def mapText (s : List Char) : Option (List Char) := (s.mapM mapChar).map List.flatten

end TableLayout.Domain
