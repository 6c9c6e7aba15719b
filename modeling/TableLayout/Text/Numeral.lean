/-!
# Numerals

Digits of a base up to 16, and numerals of 32 bits: decimal digits with one optional plus sign, read as a
number below 2^32; leading zeros are allowed, and nothing else is.
-/

namespace TableLayout.Text

def hexValue? (c : Char) : Option Nat :=
  if c.isDigit then some (c.toNat - '0'.toNat)
  else if 'a' ≤ c && c ≤ 'f' then some (c.toNat - 'a'.toNat + 10)
  else if 'A' ≤ c && c ≤ 'F' then some (c.toNat - 'A'.toNat + 10)
  else none

/-- The digits of a base, as a number; no digits are 0. -/
def readBase (base : Nat) (digits : List Char) : Option Nat :=
  digits.foldlM (fun n c => do
    let d ← hexValue? c
    if d < base then some (base * n + d) else none) 0

/-- The value of a non-empty row of ASCII digits. -/
def readDigits (s : List Char) : Option Nat :=
  if !s.isEmpty && s.all Char.isDigit then some (Nat.ofDigitChars 10 s 0) else none

def dropPlus : List Char → List Char
  | '+' :: rest => rest
  | s => s

def readWord (s : List Char) : Option UInt32 := do
  let n ← readDigits (dropPlus s)
  if h : n < UInt32.size then some (UInt32.ofNatLT n h) else none

theorem readDigits_toDigits (n : Nat) : readDigits (Nat.toDigits 10 n) = some n := by
  have all : (Nat.toDigits 10 n).all Char.isDigit = true :=
    List.all_eq_true.2 fun _ h => Nat.isDigit_of_mem_toDigits (by decide) (by decide) h
  simp [readDigits, all, Nat.toDigits_ne_nil]

theorem dropPlus_toDigits (n : Nat) : dropPlus (Nat.toDigits 10 n) = Nat.toDigits 10 n := by
  unfold dropPlus
  split
  · next rest h =>
    have : ('+').isDigit = true :=
      Nat.isDigit_of_mem_toDigits (b := 10) (n := n) (by decide) (by decide) (by simp [h])
    exact absurd this (by decide)
  · rfl

/-- Reading takes back what writing a number in decimal gives. -/
theorem readWord_toDigits (n : UInt32) : readWord (Nat.toDigits 10 n.toNat) = some n := by
  simp [readWord, dropPlus_toDigits, readDigits_toDigits, n.toNat_lt_size]

end TableLayout.Text
