import TableLayout.Text.Numeral

/-!
# IPv4 addresses

An address may be given in fewer than four parts and in three bases, and is written in four decimal ones.
-/

namespace TableLayout.Ipv4

open Text

/-- A part of an address: decimal, or octal after `0`, or hexadecimal after `0x`. -/
def readPart : List Char → Option Nat
  | [] => none
  | '0' :: 'x' :: digits => readBase 16 digits
  | '0' :: 'X' :: digits => readBase 16 digits
  | ['0'] => some 0
  | '0' :: digits => readBase 8 digits
  | digits => readBase 10 digits

/-- The parts between dots, without the empty one after a dot at the end. -/
def parts (host : List Char) : List (List Char) :=
  let all := host.splitOn '.'
  if all.length ≥ 2 && all.getLast? == some [] then all.dropLast else all

/-- The last part is a number, so that the host must be an address. -/
def looksNumeric (host : List Char) : Bool :=
  match (parts host).getLast? with
  | some last => (!last.isEmpty && last.all Char.isDigit) || (readPart last).isSome
  | none => false

/-- The number whose first bytes are `bytes` and whose others, `count` of them, are `last`. -/
def fill (bytes : List Nat) (count last : Nat) : Option Nat :=
  if bytes.all (· < 256) && last < 1 <<< (8 * count) then
    some (bytes.foldl (fun n b => 256 * n + b) 0 <<< (8 * count) + last)
  else none

/-- The address of its parts: the last one fills all the bytes that the others leave. -/
def ofParts (parts : List Nat) : Option Nat :=
  match parts.getLast? with
  | some last => if parts.length ≤ 4 then fill parts.dropLast (5 - parts.length) last else none
  | none => none

def read (host : List Char) : Option Nat := (parts host).mapM readPart >>= ofParts

def text (n : Nat) : String := s!"{n >>> 24}.{n >>> 16 % 256}.{n >>> 8 % 256}.{n % 256}"

end TableLayout.Ipv4
