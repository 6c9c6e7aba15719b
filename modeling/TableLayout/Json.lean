/-!
# JSON values

The value of a JSON text, and its layout over several lines. Numbers keep the digits they are written with.
-/

namespace TableLayout

inductive Json
  | null
  | bool (value : Bool)
  | number (literal : List Char)
  | string (value : String)
  /-- A string that spells no text, for a lone surrogate or for bytes that encode no character; or an object
  with such a key. -/
  | garbled
  | array (items : List Json)
  | object (members : List (String × Json))

namespace Json

def ofNat (n : Nat) : Json := .number (Nat.toDigits 10 n)

def ofOption (value : Option String) : Json :=
  match value with
  | some s => .string s
  | none => .null

/-! ## Writing -/

/-- Two hexadecimal digits in a four-digit escape. -/
def controlEscape (c : Char) : List Char :=
  "\\u00".toList ++ [Nat.digitChar (c.toNat / 16), Nat.digitChar (c.toNat % 16)]

def escapeChar (c : Char) : List Char :=
  match c with
  | '"' => ['\\', '"']
  | '\\' => ['\\', '\\']
  | '\n' => ['\\', 'n']
  | '\r' => ['\\', 'r']
  | '\t' => ['\\', 't']
  | '\x08' => ['\\', 'b']
  | '\x0c' => ['\\', 'f']
  | c => if c.toNat < 0x20 then controlEscape c else [c]

def quote (s : String) : String := String.ofList ('"' :: s.toList.flatMap escapeChar ++ ['"'])

def newline (depth : Nat) : String := "\n" ++ String.ofList (List.replicate (2 * depth) ' ')

/-- Puts items between brackets, each on a line of its own; without items the brackets stand together. -/
def enclose (opening closing : String) (depth : Nat) (items : List String) : String :=
  if items.isEmpty then opening ++ closing
  else opening ++ newline (depth + 1) ++ ("," ++ newline (depth + 1)).intercalate items ++ newline depth ++ closing

mutual

/-- The value over several lines, its further lines indented below `depth`. -/
def pretty (depth : Nat) : Json → String
  | .null => "null"
  | .bool b => if b then "true" else "false"
  | .number literal => String.ofList literal
  | .string s => quote s
  | .garbled => quote "\uFFFD"
  | .array items => enclose "[" "]" depth (prettyItems (depth + 1) items)
  | .object members => enclose "\x7b" "\x7d" depth (prettyMembers (depth + 1) members)

def prettyItems (depth : Nat) : List Json → List String
  | [] => []
  | v :: rest => pretty depth v :: prettyItems depth rest

def prettyMembers (depth : Nat) : List (String × Json) → List String
  | [] => []
  | (key, v) :: rest => (quote key ++ ": " ++ pretty depth v) :: prettyMembers depth rest

end

end Json

end TableLayout
