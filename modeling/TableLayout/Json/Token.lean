import TableLayout.Text.Numeral
import TableLayout.Text.Utf8

/-!
# JSON tokens

A JSON text is cut into tokens byte by byte. Whether a string spells text is settled here; whether it has to
is up to the reader of the value it stands in.
-/

namespace TableLayout.Json

inductive Token
  | openBrace
  | closeBrace
  | openBracket
  | closeBracket
  | comma
  | colon
  | null
  | bool (value : Bool)
  | number (literal : List Char)
  /-- Without a value, the string is garbled. -/
  | string (value : Option String)
deriving DecidableEq

/-! ## Numbers -/

/-- A sign, an integer without leading zeros, a fraction and an exponent, of which all but the second may be
left out. -/
def isNumber (literal : List Char) : Bool :=
  let afterSign := if literal.head? = some '-' then literal.tail else literal
  let (whole, rest) := afterSign.span Char.isDigit
  let wholeOk := !whole.isEmpty && (whole.head? ≠ some '0' || whole.length == 1)
  let (fractionOk, rest) := match rest with
    | '.' :: rest =>
      let (digits, rest) := rest.span Char.isDigit
      (!digits.isEmpty, rest)
    | rest => (true, rest)
  let exponentOk := match rest with
    | [] => true
    | e :: rest =>
      let digits := match rest with
        | '+' :: digits => digits
        | '-' :: digits => digits
        | digits => digits
      (e == 'e' || e == 'E') && !digits.isEmpty && digits.all Char.isDigit
  wholeOk && fractionOk && exponentOk

/-! ## Strings -/

/-- A string as far as it has been read. -/
structure Spelling where
  bytes : ByteArray
  /-- A leading surrogate that waits for its other half. -/
  leading : Option Nat
  garbled : Bool

namespace Spelling

def empty : Spelling := ⟨.empty, none, false⟩

/-- Nothing can complete a leading surrogate any more. -/
def settle (s : Spelling) : Spelling :=
  if s.leading.isSome then { s with leading := none, garbled := true } else s

def pushByte (s : Spelling) (b : UInt8) : Spelling :=
  let s := s.settle
  { s with bytes := s.bytes.push b }

def pushCode (s : Spelling) (code : Nat) : Spelling :=
  { s with bytes := s.bytes ++ (String.singleton (Char.ofNat code)).toUTF8 }

/-- Takes a code unit of sixteen bits. -/
def pushUnit (s : Spelling) (unit : Nat) : Spelling :=
  if 0xDC00 ≤ unit && unit ≤ 0xDFFF then
    match s.leading with
    | some high => { s with leading := none }.pushCode (0x10000 + (high - 0xD800) * 0x400 + (unit - 0xDC00))
    | none => { s with garbled := true }
  else if 0xD800 ≤ unit && unit ≤ 0xDBFF then { s.settle with leading := some unit }
  else s.settle.pushCode unit

def value (s : Spelling) : Option String :=
  let s := s.settle
  if s.garbled then none else String.fromUTF8? s.bytes

end Spelling

/-! ## The lexer -/

inductive Mode
  | between
  /-- Inside a number or a word, its characters in reverse. -/
  | literal (reversed : List Char)
  | string (s : Spelling)
  | escape (s : Spelling)
  /-- Inside a numeric escape, with the digits still to come and the value of those seen. -/
  | unit (s : Spelling) (digits value : Nat)

/-- The mode, and the tokens found in reverse. -/
structure Lexer where
  mode : Mode
  found : List Token

namespace Lexer

def start : Lexer := ⟨.between, []⟩

def push (l : Lexer) (t : Token) : Lexer := ⟨.between, t :: l.found⟩

def literalToken (literal : List Char) : Option Token :=
  if literal = "null".toList then some .null
  else if literal = "true".toList then some (.bool true)
  else if literal = "false".toList then some (.bool false)
  else if isNumber literal then some (.number literal)
  else none

/-- Takes a character outside all tokens. -/
def stepBetween (l : Lexer) (c : Char) : Option Lexer :=
  match c with
  | ' ' | '\n' | '\t' | '\r' => some l
  | '\x7b' => some (l.push .openBrace)
  | '\x7d' => some (l.push .closeBrace)
  | '[' => some (l.push .openBracket)
  | ']' => some (l.push .closeBracket)
  | ',' => some (l.push .comma)
  | ':' => some (l.push .colon)
  | '"' => some { l with mode := .string .empty }
  | c => if c.isAlphanum || c == '-' then some { l with mode := .literal [c] } else none

def isLiteralChar (c : Char) : Bool := c.isAlphanum || c == '-' || c == '+' || c == '.'

def stepLiteral (l : Lexer) (reversed : List Char) (c : Char) : Option Lexer :=
  if isLiteralChar c then some { l with mode := .literal (c :: reversed) }
  else do
    let token ← literalToken reversed.reverse
    (l.push token).stepBetween c

/-- Takes a byte of a string; controls must be escaped. -/
def stepString (l : Lexer) (s : Spelling) (b : UInt8) : Option Lexer :=
  if b = 0x22 then some (l.push (.string s.value))
  else if b = 0x5C then some { l with mode := .escape s }
  else if b < 0x20 then none
  else some { l with mode := .string (s.pushByte b) }

def stepEscape (l : Lexer) (s : Spelling) (c : Char) : Option Lexer :=
  match c with
  | '"' | '\\' | '/' => some { l with mode := .string (s.settle.pushCode c.toNat) }
  | 'b' => some { l with mode := .string (s.settle.pushCode 0x8) }
  | 'f' => some { l with mode := .string (s.settle.pushCode 0xC) }
  | 'n' => some { l with mode := .string (s.settle.pushCode 0xA) }
  | 'r' => some { l with mode := .string (s.settle.pushCode 0xD) }
  | 't' => some { l with mode := .string (s.settle.pushCode 0x9) }
  | 'u' => some { l with mode := .unit s 4 0 }
  | _ => none

def stepUnit (l : Lexer) (s : Spelling) (digits value : Nat) (c : Char) : Option Lexer := do
  let d ← Text.hexValue? c
  let value := 16 * value + d
  if digits ≤ 1 then some { l with mode := .string (s.pushUnit value) }
  else some { l with mode := .unit s (digits - 1) value }

def step (l : Lexer) (b : UInt8) : Option Lexer :=
  let c := Char.ofNat b.toNat
  match l.mode with
  | .between => l.stepBetween c
  | .literal reversed => l.stepLiteral reversed c
  | .string s => l.stepString s b
  | .escape s => l.stepEscape s c
  | .unit s digits value => l.stepUnit s digits value c

def finish (l : Lexer) : Option (List Token) :=
  match l.mode with
  | .between => some l.found.reverse
  | .literal reversed => do
    let token ← literalToken reversed.reverse
    return (token :: l.found).reverse
  | _ => none

end Lexer

def Token.read (bytes : ByteArray) : Option (List Token) := do
  let l ← bytes.toList.foldlM Lexer.step .start
  l.finish

end TableLayout.Json
