import TableLayout.Text.Numeral

/-!
# Percent-encoding

Bytes that may not stand in a part of a URL are written as `%` and two hexadecimal digits.
-/

namespace TableLayout.Percent

open Text

def hexDigit (n : Nat) : Char := (Nat.digitChar n).toUpper

def encodeByte (b : UInt8) : List Char := ['%', hexDigit (b.toNat / 16), hexDigit (b.toNat % 16)]

/-- Encodes the characters that `reserved` names, the controls, and all beyond ASCII. -/
def encode (reserved : List Char) (s : List Char) : List Char :=
  s.flatMap fun c =>
    if c.toNat < 0x20 || 0x7E < c.toNat || reserved.contains c then
      (String.singleton c).toUTF8.toList.flatMap encodeByte
    else [c]

/-- The bytes that a text stands for; a `%` without two digits stands for itself. -/
def decode : List Char → List UInt8
  | '%' :: a :: b :: rest =>
    match hexValue? a, hexValue? b with
    | some x, some y => UInt8.ofNat (16 * x + y) :: decode rest
    | _, _ => 0x25 :: decode (a :: b :: rest)
  | c :: rest => (String.singleton c).toUTF8.toList ++ decode rest
  | [] => []

end TableLayout.Percent
