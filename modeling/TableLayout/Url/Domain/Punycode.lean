import TableLayout.Text.Cut

/-!
# Punycode

Labels beyond ASCII are written in it: first the ASCII characters, then, after a hyphen, the places and numbers
of all others in increasing order, as differences in digits of base 36 whose thresholds adapt to what came
before.
-/

namespace TableLayout.Punycode

open Text

def digitChar (d : Nat) : Char := Char.ofNat (if d < 26 then 'a'.toNat + d else '0'.toNat + d - 26)

def digitValue? (c : Char) : Option Nat :=
  if 'a' ≤ c && c ≤ 'z' then some (c.toNat - 'a'.toNat)
  else if c.isDigit then some (c.toNat - '0'.toNat + 26)
  else none

/-- The digit from which on the one at position `k` is the last of its number. -/
def threshold (k bias : Nat) : Nat := min 26 (max 1 (k - bias))

theorem one_le_threshold (k bias : Nat) : 1 ≤ threshold k bias := by unfold threshold; omega

theorem threshold_le (k bias : Nat) : threshold k bias ≤ 26 := by unfold threshold; omega

/-- Divides a difference until it is small, and adds up the positions that it takes. -/
def settle (delta k : Nat) : Nat :=
  if 455 < delta then settle (delta / 35) (k + 36) else k + 36 * delta / (delta + 38)
termination_by delta

/-- The bias after a difference, when `count` characters are placed. -/
def adapt (delta count : Nat) (isFirst : Bool) : Nat :=
  let delta := if isFirst then delta / 700 else delta / 2
  settle (delta + delta / count) 0

/-! ## Writing -/

/-- The digits of a difference, from position `k` on. -/
def writeDelta (bias k q : Nat) : List Char :=
  let t := threshold k bias
  if q < t then [digitChar q]
  else digitChar (t + (q - t) % (36 - t)) :: writeDelta bias (k + 36) ((q - t) / (36 - t))
termination_by q
decreasing_by
  have h₁ := one_le_threshold k bias
  have h₂ := threshold_le k bias
  exact Nat.lt_of_le_of_lt (Nat.div_le_self _ _) (by omega)

structure Writer where
  /-- What is written, the latest piece first. -/
  pieces : List (List Char)
  /-- The places passed since the last character written. -/
  delta : Nat
  bias : Nat
  /-- The number of characters written, those of ASCII included. -/
  count : Nat

/-- Passes the character `c` on the round for the number `n`. -/
def Writer.pass (basic n : Nat) (w : Writer) (c : Char) : Writer :=
  if c.toNat < n then { w with delta := w.delta + 1 }
  else if c.toNat = n then
    ⟨writeDelta w.bias 36 w.delta :: w.pieces, 0, adapt w.delta (w.count + 1) (w.count == basic), w.count + 1⟩
  else w

/-- Makes one round over the label for each number; `next` is the least that was not tried before. -/
def Writer.rounds (label : List Char) (basic : Nat) (w : Writer) (next : Nat) : List Nat → Writer
  | [] => w
  | n :: rest =>
    let w := { w with delta := w.delta + (n - next) * (w.count + 1) }
    let w := label.foldl (Writer.pass basic n) w
    Writer.rounds label basic { w with delta := w.delta + 1 } (n + 1) rest

def isAscii (c : Char) : Bool := c.toNat < 0x80

def encode (label : List Char) : List Char :=
  let basic := label.filter isAscii
  let numbers := (((label.filter (!isAscii ·)).map Char.toNat).mergeSort fun a b => a ≤ b).eraseDups
  let w := Writer.rounds label basic.length ⟨[], 0, 72, basic.length⟩ 0x80 numbers
  basic ++ (if basic.isEmpty then [] else ['-']) ++ w.pieces.reverse.flatten

/-! ## Reading -/

/-- Reads a difference that counts in units of `weight` from `i` on, and gives the sum and the rest. -/
def readDelta (bias k weight i : Nat) : List Char → Option (Nat × List Char)
  | [] => none
  | c :: rest => do
    let d ← digitValue? c
    let t := threshold k bias
    if d < t then some (i + d * weight, rest) else readDelta bias (k + 36) (weight * (36 - t)) (i + d * weight) rest

/-- Places the characters that the rest of a label spells, each with a number from `n` on and a place from `i`
on; `fuel` bounds how many there are. -/
def place (fuel : Nat) (label : List Char) (bias n i : Nat) (s : List Char) : Option (List Char) :=
  match fuel with
  | 0 => if s.isEmpty then some label else none
  | fuel + 1 =>
    if s.isEmpty then some label
    else do
      let (sum, rest) ← readDelta bias 36 1 i s
      let count := label.length + 1
      let next := n + sum / count
      if next.isValidChar then
        let label := label.insertIdx (sum % count) (Char.ofNat next)
        place fuel label (adapt (sum - i) count (i == 0)) next (sum % count + 1) rest
      else none

/-- The label that a text spells; the last hyphen ends its ASCII characters. -/
def decode (s : List Char) : Option (List Char) :=
  let (basic, digits) := match cutAt '-' s.reverse with
    | some (digits, c :: basic) => ((c :: basic).reverse, digits.reverse)
    | _ => ([], s)
  place digits.length basic 72 0x80 0 digits

end TableLayout.Punycode
