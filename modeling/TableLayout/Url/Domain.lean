import TableLayout.Url.Domain.Bidi
import TableLayout.Url.Domain.Joining
import TableLayout.Url.Domain.Mapping
import TableLayout.Url.Domain.Punycode

/-!
# Domains

A domain is written in ASCII: its characters are mapped, and a label beyond ASCII is spelled in Punycode after
`xn--`. Labels that come in this spelling have to be what writing them would give.
-/

namespace TableLayout.Domain

/-- No domain holds one of these. -/
def isForbidden (c : Char) : Bool :=
  c.toNat ≤ 0x20 || c.toNat == 0x7F || "#/:<>?@[\\]^|%".toList.contains c

def spelledStart : List Char := "xn--".toList

def longestLabel : Nat := 1000

def longestSpelling : Nat := 2000

/-- The label shows well wherever it stands. -/
def isSound (label : List Char) : Bool :=
  !(label.head?.any isMark) && joinersFit [] label && !label.any isForbidden

/-- A label, and how it is written in ASCII. -/
structure Label where
  text : List Char
  ascii : List Char

def Label.ofSpelling? (spelling : List Char) : Option Label := do
  let text ← Punycode.decode spelling
  if spelling.length ≤ longestSpelling && spelling.getLast? != some '-' && !text.all Punycode.isAscii &&
      text.all isValid && normal text == text && isSound text then
    some ⟨text, spelledStart ++ spelling⟩
  else none

/-- Reads a label whose characters are mapped. -/
def Label.read? (label : List Char) : Option Label :=
  if spelledStart.isPrefixOf label then Label.ofSpelling? (label.drop spelledStart.length)
  else if !isSound label then none
  else if label.all Punycode.isAscii then some ⟨label, label⟩
  else if longestLabel < label.length then none
  else some ⟨label, spelledStart ++ Punycode.encode label⟩

/-- Where any label runs from right to left, all keep their direction. -/
def directionsFit (labels : List Label) : Bool :=
  let directed := labels.map fun l => l.text.map direction
  !(directed.any (·.any Direction.runsRight)) || directed.all keepsDirection

/-- Writes a domain in ASCII, if it is one. -/
def ascii? (s : List Char) : Option (List Char) := do
  let mapped ← mapText s
  let labels ← ((normal mapped).splitOn '.').mapM Label.read?
  if directionsFit labels then some (['.'].intercalate (labels.map (·.ascii))) else none

end TableLayout.Domain
