import TableLayout.Url.Domain.JoiningTable
import TableLayout.Url.Domain.Normal

/-!
# Joiners

The two invisible characters that join letters or keep them apart may stand only where they show: after a
virama, and the one that keeps apart also between letters that would join.
-/

namespace TableLayout.Domain

open Text

/-- How a letter joins its neighbours. -/
inductive Joining
  | apart
  | left
  | right
  | both
  /-- Letters join across it. -/
  | transparent
deriving DecidableEq, Repr

def joinings : List TableRow := readTable joiningsText

def joining (c : Char) : Joining :=
  match lookUpClass joinings c.toNat with
  | some 1 => .left
  | some 2 => .right
  | some 3 => .both
  | some 4 => .transparent
  | _ => .apart

/-- The class of the marks that silence a vowel. -/
def viramaClass : Nat := 9

/-- The nearest letter of these joins onward. -/
def reaches (side : Joining) (s : List Char) : Bool :=
  match (s.dropWhile (joining · == .transparent)).head? with
  | some c => joining c == side || joining c == .both
  | none => false

def afterVirama (before : List Char) : Bool :=
  match before with
  | c :: _ => markClass c == viramaClass
  | [] => false

/-- Every joiner of a label stands where it may; `before` are the characters passed, reversed. -/
def joinersFit (before : List Char) : List Char → Bool
  | [] => true
  | c :: rest =>
    (if c = '\u200C' then afterVirama before || (reaches .left before && reaches .right rest)
     else if c = '\u200D' then afterVirama before
     else true) && joinersFit (c :: before) rest

end TableLayout.Domain
