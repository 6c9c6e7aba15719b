import TableLayout.Text.CodeTable
import TableLayout.Url.Domain.NormalTable

/-!
# The composed normal form

Marks on a character are put in the order of their classes, and a character is joined with the marks that it
has a composite for. The tables cover the characters that a domain may hold.
-/

namespace TableLayout.Domain

open Text

def markClasses : List TableRow := readTable markClassesText

/-- Each composite, with its two parts. -/
def composites : List TableRow := readTable compositesText

/-- The class that orders a mark among others; 0 for the characters that start anew. -/
def markClass (c : Char) : Nat :=
  if c.toNat < 0x300 then 0 else (lookUpClass markClasses c.toNat).getD 0

/-! ## Hangul, whose syllables are composed by rule -/

def leadBase : Nat := 0x1100
def vowelBase : Nat := 0x1161
/-- One less than the first trailing consonant. -/
def trailBase : Nat := 0x11A7
def syllableBase : Nat := 0xAC00

def isSyllable (n : Nat) : Bool := syllableBase ≤ n && n < syllableBase + 19 * 21 * 28

def syllableParts (n : Nat) : List Nat :=
  let i := n - syllableBase
  let jamo := [leadBase + i / (21 * 28), vowelBase + i % (21 * 28) / 28]
  if i % 28 = 0 then jamo else jamo ++ [trailBase + i % 28]

def composeHangul (a b : Nat) : Option Nat :=
  if leadBase ≤ a && a < leadBase + 19 && vowelBase ≤ b && b < vowelBase + 21 then
    some (syllableBase + ((a - leadBase) * 21 + (b - vowelBase)) * 28)
  else if isSyllable a && (a - syllableBase) % 28 == 0 && trailBase < b && b < trailBase + 28 then
    some (a + (b - trailBase))
  else none

/-! ## Decomposing -/

/-- The parts of a code point; `fuel` bounds how deep composites are nested. -/
def decompose (fuel : Nat) (n : Nat) : List Nat :=
  match fuel with
  | 0 => [n]
  | fuel + 1 =>
    if isSyllable n then syllableParts n
    else
      match composites.find? (·.run.first == n) with
      | some row => row.values.flatMap (decompose fuel)
      | none => [n]

/-- The parts of a character; no composite is nested deeper than three times. -/
def parts (c : Char) : List Char :=
  if c.toNat < 0xC0 then [c] else (decompose 4 c.toNat).map Char.ofNat

/-- Puts a character behind the reversed ones, before the marks of a higher class. -/
def putMark (c : Char) : List Char → List Char
  | [] => [c]
  | d :: rest =>
    if 0 < markClass c && markClass c < markClass d then d :: putMark c rest else c :: d :: rest

def decomposed (s : List Char) : List Char :=
  ((s.flatMap parts).foldl (fun reversed c => putMark c reversed) []).reverse

/-! ## Composing -/

def composite? (a b : Char) : Option Char :=
  match composeHangul a.toNat b.toNat with
  | some n => some (Char.ofNat n)
  | none =>
    (composites.find? (·.values == [a.toNat, b.toNat])).map fun row => Char.ofNat row.run.first

/-- Joins `start` with what follows it; `marks` stand between, reversed, and `blocked` is the class up to which
they keep a mark away. -/
def composeFrom (start : Char) (marks : List Char) (blocked : Option Nat) : List Char → List Char
  | [] => start :: marks.reverse
  | c :: rest =>
    let joined := if blocked.all (· < markClass c) then composite? start c else none
    match joined with
    | some whole => composeFrom whole marks blocked rest
    | none =>
      if markClass c = 0 then start :: marks.reverse ++ composeFrom c [] none rest
      else composeFrom start (c :: marks) (some (markClass c)) rest

/-- The composed form; marks before the first start stay as they are. -/
def composed (s : List Char) : List Char :=
  match s.span (markClass · != 0) with
  | (marks, c :: rest) => marks ++ composeFrom c [] none rest
  | (marks, []) => marks

def normal (s : List Char) : List Char :=
  if s.all (·.toNat < 0x300) then s else composed (decomposed s)

end TableLayout.Domain
