import TableLayout.Pattern.Cursor
import TableLayout.Text.Numeral

/-!
# Escapes and numbers

What a backslash starts: a character, a class, or a condition on the place. Backreferences are refused.
-/

namespace TableLayout.Pattern.Reading

open Text

/-! ## Numbers -/

/-- The value of digits below 2^32. -/
def word? (base : Nat) (digits : List Char) : Option Nat := (readBase base digits).filter (· < 4294967296)

/-- Reads a decimal with blanks around it; a fault is left for the caller to raise. -/
def decimal : Reading (Except Complaint Nat) := do
  let _ ← collect isBlank Cursor.next
  let start ← position
  let digits ← collect Char.isDigit Cursor.nextSkipping
  let span ← since start
  let _ ← collect isBlank Cursor.nextSkipping
  if digits.isEmpty then return .error ⟨.countEmpty, span, none⟩
  match word? 10 digits with
  | some n => return .ok n
  | none => return .error ⟨.decimalLarge, span, none⟩

def isHexDigit (c : Char) : Bool := (hexValue? c).isSome

/-- The character of a number, whose digits stand in `span`. -/
def character (digits : List Char) (span : Span) : Reading Char := do
  match (word? 16 digits).filter Nat.isValidChar with
  | some n => return Char.ofNat n
  | none => complain .hexNoCharacter span

/-- Reads exactly as many digits as remain; the pattern may not end before the last one. -/
def fixedDigits : (remaining : Nat) → Reading (List Char)
  | 0 => return []
  | remaining + 1 => do
    match ← char? with
    | none => complain .escapeUnfinished (← here)
    | some c =>
      if isHexDigit c then
        nextSkipping
        return c :: (← fixedDigits remaining)
      else complain .hexDigit (← charSpan)

/-- Reads the digits between braces. -/
def bracedCharacter : Reading Char := do
  let open_ ← charSpan
  nextSkipping
  let digits ← collect isHexDigit Cursor.nextSkipping
  match ← char? with
  | none => complain .escapeUnfinished (← since open_.start)
  | some '\x7d' =>
    let inside ← since open_.stop
    nextSkipping
    if digits.isEmpty then complain .hexEmpty (← since open_.start) else character digits inside
  | some _ => complain .hexDigit (← charSpan)

/-- Reads a character by its number; the escape starts at `start`, and the next character says how many digits
there are. -/
def numbered (start : Position) (size : Nat) : Reading Tree := do
  nextSkipping
  match ← char? with
  | none => complain .escapeUnfinished (← here)
  | some '\x7b' =>
    let c ← bracedCharacter
    return .literal ⟨c, false, ← since start⟩
  | some _ =>
    let first ← position
    let digits ← fixedDigits size
    let c ← character digits (← since first)
    return .literal ⟨c, size == 2, ← since start⟩

/-! ## Classes and places -/

/-- Reads the name of a property: one letter, or a text between braces. -/
def propertyName (start : Position) : Reading Tree := do
  nextSkipping
  match ← char? with
  | none => complain .escapeUnfinished (← here)
  | some '\x7b' =>
    nextSkipping
    let name ← collect (· != '\x7d') Cursor.nextSkipping
    if ← atEnd then complain .escapeUnfinished (← here)
    next
    return .property ⟨name, ← since start⟩
  | some '\\' => complain .propertyMalformed (← charSpan)
  | some c =>
    nextSkipping
    return .property ⟨[c], ← since start⟩

def shorthandKind? (c : Char) : Option ShorthandKind :=
  [('d', .digit), ('s', .space), ('w', .word)].lookup c.toLower

def wordEdge? (name : List Char) : Option WordEdge :=
  [("start", .start), ("end", .stop), ("start-half", .startHalf), ("end-half", .stopHalf)].lookup
    (String.ofList name)

/-- The characters in the names of word edges. -/
def isEdgeChar (c : Char) : Bool := c.isAlpha || c == '-'

/-- Reads the name of a word edge between braces; where no name can start, the braces hold a count and are left. -/
def namedEdge (start : Position) : Reading WordEdge := do
  let before ← get
  let brace ← position
  nextSkipping
  match ← char? with
  | none => complain .boundaryOrCountUnfinished (← since start)
  | some c =>
    if !isEdgeChar c then
      set before
      return .edge
    else
      let first ← position
      let name ← collect isEdgeChar Cursor.nextSkipping
      if (← char?) != some '\x7d' then complain .boundaryUnclosed (← since brace)
      let inside ← since first
      next
      match wordEdge? name with
      | some kind => return kind
      | none => complain .boundaryUnknown inside

/-- The characters with a meaning of their own, which an escape takes away. -/
def isMeta (c : Char) : Bool := "\\.+*?()|[]\x7b\x7d^$#&-~".toList.contains c

/-- May be escaped although that changes nothing. -/
def mayBeEscaped (c : Char) : Bool :=
  isMeta c || (c.toNat < 0x80 && !c.isAlphanum && c != '<' && c != '>')

/-- The control characters that have a letter. -/
def control? (c : Char) : Option Char :=
  [('a', '\x07'), ('f', '\x0c'), ('t', '\t'), ('n', '\n'), ('r', '\r'), ('v', '\x0b')].lookup c

def place? (c : Char) : Option PlaceKind :=
  [('A', .textStart), ('z', .textEnd), ('B', .word .noEdge), ('<', .word .start), ('>', .word .stop)].lookup c

/-- Reads what a backslash starts. -/
def escape : Reading Tree := do
  let start ← position
  next
  match ← char? with
  | none => complain .escapeUnfinished (← since start)
  | some c =>
    if c.isDigit then complain .backreference ⟨start, (← charSpan).stop⟩
    else if c = 'x' then numbered start 2
    else if c = 'u' then numbered start 4
    else if c = 'U' then numbered start 8
    else if c = 'p' || c = 'P' then propertyName start
    else
      next
      let span ← since start
      match shorthandKind? c with
      | some kind => return .shorthand ⟨kind, c.isUpper, span⟩
      | none =>
        if mayBeEscaped c then return .literal ⟨c, false, span⟩
        else if c = 'b' then
          let kind ← if (← char?) = some '\x7b' then namedEdge start else pure .edge
          return .place (.word kind) (← since start)
        else
          match control? c, place? c with
          | some control, _ => return .literal ⟨control, false, span⟩
          | none, some kind => return .place kind span
          | none, none => complain .escapeUnknown span

end TableLayout.Pattern.Reading
