import TableLayout.Json
import TableLayout.Json.Token

/-!
# Reading JSON

The tokens of a text build one value. The values that are still open wait on a stack, so that a text may nest
as deeply as it likes.
-/

namespace TableLayout.Json

/-- A value that is not closed yet, its parts in reverse; a key that spells no text is missing. -/
inductive Frame
  | array (items : List Json)
  | object (members : List (Option String × Json))
  /-- An object in which the value for `key` comes next. -/
  | member (members : List (Option String × Json)) (key : Option String)

/-- What may come next. -/
inductive Expected
  | value
  /-- A value, or the end of an array without items. -/
  | firstItem
  | key
  /-- A key, or the end of an object without members. -/
  | firstKey
  | colon (key : Option String)
  /-- A comma, or the end of what is open. -/
  | separator
  | nothing (result : Json)

structure Reader where
  stack : List Frame
  expected : Expected

namespace Reader

def start : Reader := ⟨[], .value⟩

/-- Puts a finished value where it belongs. -/
def complete (v : Json) : List Frame → Option Reader
  | [] => some ⟨[], .nothing v⟩
  | .array items :: rest => some ⟨.array (v :: items) :: rest, .separator⟩
  | .member members key :: rest => some ⟨.object ((key, v) :: members) :: rest, .separator⟩
  | .object _ :: _ => none

def stepValue (stack : List Frame) (t : Token) : Option Reader :=
  match t with
  | .null => complete .null stack
  | .bool b => complete (.bool b) stack
  | .number literal => complete (.number literal) stack
  | .string (some s) => complete (.string s) stack
  | .string none => complete .garbled stack
  | .openBracket => some ⟨.array [] :: stack, .firstItem⟩
  | .openBrace => some ⟨.object [] :: stack, .firstKey⟩
  | _ => none

def stepKey (stack : List Frame) (t : Token) : Option Reader :=
  match t with
  | .string key => some ⟨stack, .colon key⟩
  | _ => none

/-- The object of members in reverse, garbled as a whole if one of its keys is. -/
def closeObject (members : List (Option String × Json)) : Json :=
  match members.reverse.mapM fun (key, v) => key.map fun key => (key, v) with
  | some members => .object members
  | none => .garbled

def stepSeparator (stack : List Frame) (t : Token) : Option Reader :=
  match t, stack with
  | .comma, .array _ :: _ => some ⟨stack, .value⟩
  | .comma, .object _ :: _ => some ⟨stack, .key⟩
  | .closeBracket, .array items :: rest => complete (.array items.reverse) rest
  | .closeBrace, .object members :: rest => complete (closeObject members) rest
  | _, _ => none

def step (r : Reader) (t : Token) : Option Reader :=
  match r.expected with
  | .value => stepValue r.stack t
  | .firstItem => if t = .closeBracket then stepSeparator r.stack t else stepValue r.stack t
  | .key => stepKey r.stack t
  | .firstKey => if t = .closeBrace then stepSeparator r.stack t else stepKey r.stack t
  | .colon key =>
    match t, r.stack with
    | .colon, .object members :: rest => some ⟨.member members key :: rest, .value⟩
    | _, _ => none
  | .separator => stepSeparator r.stack t
  | .nothing _ => none

def result? (r : Reader) : Option Json :=
  match r.expected with
  | .nothing v => some v
  | _ => none

end Reader

def ofTokens (tokens : List Token) : Option Json := do
  let r ← tokens.foldlM Reader.step .start
  r.result?

/-- The value of a JSON text. -/
def read (bytes : ByteArray) : Option Json := do
  let tokens ← Token.read bytes
  ofTokens tokens

end TableLayout.Json
