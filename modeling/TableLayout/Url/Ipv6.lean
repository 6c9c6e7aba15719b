import TableLayout.Text.Cut
import TableLayout.Url.Ipv4

/-!
# IPv6 addresses

Eight pieces of 16 bits in hexadecimal with colons between them; two colons in a row stand for a run of zeros,
and the last two pieces may be given as four decimal bytes. Written, the longest run of at least two zeros is
left out, the first one of several.
-/

namespace TableLayout.Ipv6

open Text

def readPiece (s : List Char) : Option Nat :=
  if !s.isEmpty && s.length ≤ 4 then readBase 16 s else none

def readByte (s : List Char) : Option Nat := do
  let n ← readDigits s
  if n < 256 && (s.head? != some '0' || s.length == 1) then some n else none

/-- The end of an address: one piece, or two pieces as four bytes. -/
def readEnd (s : List Char) : Option (List Nat) :=
  match s.splitOn '.' with
  | [piece] => (readPiece piece).map ([·])
  | [a, b, c, d] => do
    let high := 256 * (← readByte a) + (← readByte b)
    let low := 256 * (← readByte c) + (← readByte d)
    return [high, low]
  | _ => none

/-- Pieces with colons between them; without any text there are none. -/
def readPieces (s : List Char) : Option (List Nat) :=
  if s.isEmpty then some [] else (s.splitOn ':').mapM readPiece

/-- Pieces up to the end of the address. -/
def readLast (s : List Char) : Option (List Nat) :=
  let groups := s.splitOn ':'
  if s.isEmpty then some []
  else do
    let pieces ← groups.dropLast.mapM readPiece
    let ending ← readEnd (groups.getLastD [])
    return pieces ++ ending

def read (s : List Char) : Option (List Nat) := do
  match cutAtPair ':' s with
  | some (before, after) =>
    let high ← readPieces before
    let low ← readLast after
    if high.length + low.length < 8 then
      return high ++ List.replicate (8 - high.length - low.length) 0 ++ low
    else none
  | none =>
    let pieces ← readLast s
    if pieces.length = 8 then return pieces else none

/-! ## Writing -/

/-- The number of zeros from a position on. -/
def zerosAt (pieces : List Nat) (i : Nat) : Nat := ((pieces.drop i).takeWhile (· == 0)).length

/-- Where the first of the longest runs of zeros starts. -/
def longestZeros (pieces : List Nat) : Nat :=
  (List.range pieces.length).foldl (fun best i => if zerosAt pieces best < zerosAt pieces i then i else best) 0

def piecesText (pieces : List Nat) : String :=
  ":".intercalate (pieces.map fun n => String.ofList (Nat.toDigits 16 n))

def text (pieces : List Nat) : String :=
  let i := longestZeros pieces
  let zeros := zerosAt pieces i
  if 2 ≤ zeros then piecesText (pieces.take i) ++ "::" ++ piecesText (pieces.drop (i + zeros))
  else piecesText pieces

/-- As `text`, but an address that stands for an IPv4 address shows that. -/
def mixedText (pieces : List Nat) : String :=
  match pieces with
  | [0, 0, 0, 0, 0, 0xFFFF, high, low] => "::ffff:" ++ Ipv4.text (0x10000 * high + low)
  | _ => text pieces

end TableLayout.Ipv6
