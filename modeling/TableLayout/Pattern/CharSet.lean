/-!
# Sets of characters

A set is a list of ranges of code points, in any order.
-/

namespace TableLayout

abbrev CharSet := List (Nat × Nat)

namespace CharSet

def hasCode (s : CharSet) (n : Nat) : Bool := s.any fun (low, high) => low ≤ n && n ≤ high

def has (s : CharSet) (c : Char) : Bool := s.hasCode c.toNat

/-- Every member is at most `top`. -/
def isWithin (top : Nat) (s : CharSet) : Bool := s.all fun (_, high) => high ≤ top

/-- What the ranges, by their starts, leave of the numbers from `next` up to `top`. -/
def gaps (top next : Nat) : CharSet → CharSet
  | [] => if next ≤ top then [(next, top)] else []
  | (low, high) :: rest =>
    (if next < low then [(next, low - 1)] else []) ++ gaps top (max next (high + 1)) rest

/-- The numbers up to `top` that are not in the set. -/
def complement (top : Nat) (s : CharSet) : CharSet := gaps top 0 (s.mergeSort fun a b => a.1 ≤ b.1)

def inter (s t : CharSet) : CharSet :=
  s.flatMap fun (a, b) => t.filterMap fun (c, d) =>
    if max a c ≤ min b d then some (max a c, min b d) else none

def union (s t : CharSet) : CharSet := s ++ t

def difference (top : Nat) (s t : CharSet) : CharSet := s.inter (t.complement top)

def symmetricDifference (top : Nat) (s t : CharSet) : CharSet := (s.union t).difference top (s.inter t)

def ofChar (c : Char) : CharSet := [(c.toNat, c.toNat)]

/-! ## Letter case of ASCII -/

/-- The part of a set between two numbers, moved up or down. -/
def moved (low high : Nat) (move : Nat → Nat) (s : CharSet) : CharSet :=
  (s.inter [(low, high)]).map fun (a, b) => (move a, move b)

/-- The set with the other case of its letters. -/
def withBothCases (s : CharSet) : CharSet :=
  s ++ s.moved 0x41 0x5A (· + 0x20) ++ s.moved 0x61 0x7A (· - 0x20)

end CharSet

end TableLayout
