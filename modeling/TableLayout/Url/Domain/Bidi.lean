import TableLayout.Text.CodeTable
import TableLayout.Url.Domain.BidiTable

/-!
# Labels that run from right to left

A domain with a character that runs from right to left shows well only if each label keeps one direction: it
starts with a letter, holds nothing that runs the other way, and ends in a letter or a digit.
-/

namespace TableLayout.Domain

open Text

/-- How a character takes part in the direction of a text. -/
inductive Direction
  | left
  | right
  | europeanNumber
  | arabicNumber
  /-- Takes the direction of what stands around it. -/
  | neutral
  /-- Belongs to the character before it. -/
  | mark
  | other
deriving DecidableEq, Repr

def directions : List TableRow := readTable directionsText

def direction (c : Char) : Direction :=
  match lookUpClass directions c.toNat with
  | none => .left
  | some 1 => .right
  | some 2 => .europeanNumber
  | some 3 => .arabicNumber
  | some 4 => .neutral
  | some 5 => .mark
  | some _ => .other

def Direction.runsRight (d : Direction) : Bool := d == .right || d == .arabicNumber

/-- The directions that may end a label, marks aside. -/
def mayEnd (first last : Direction) : Bool :=
  match first with
  | .left => [.left, .europeanNumber].contains last
  | _ => [.right, .europeanNumber, .arabicNumber].contains last

/-- The directions that may stand in a label. -/
def mayHold (first d : Direction) : Bool :=
  match first with
  | .left => [.left, .europeanNumber, .neutral, .mark].contains d
  | _ => [.right, .europeanNumber, .arabicNumber, .neutral, .mark].contains d

/-- A label keeps one direction; one that runs from right to left holds digits of one kind only. -/
def keepsDirection (label : List Direction) : Bool :=
  match label, (label.reverse.dropWhile (· == .mark)).head? with
  | [], _ => true
  | _, none => false
  | first :: rest, some last =>
    (first == .left || first == .right) && rest.all (mayHold first) && mayEnd first last &&
      !(rest.contains .europeanNumber && rest.contains .arabicNumber)

end TableLayout.Domain
