import TableLayout.Pattern.Fault
import TableLayout.Pattern.Tree
import TableLayout.Text.Cut

/-!
# Reading a pattern

What is left of a pattern, where it starts, and what was seen before.
-/

namespace TableLayout.Pattern

open Text

structure Cursor where
  rest : List Char
  position : Position
  /-- Blanks and comments are skipped. -/
  isExtended : Bool
  /-- The names of groups, and where they are given. -/
  names : List (List Char × Span)

namespace Cursor

def ofPattern (pattern : List Char) : Cursor := ⟨pattern, .first, false, []⟩

/-- Passes one character. -/
def next (c : Cursor) : Cursor :=
  match c.rest with
  | [] => c
  | x :: rest => { c with rest := rest, position := c.position.after x }

/-- What follows blanks and comments. -/
def passBlanks (inComment : Bool) (position : Position) : List Char → List Char × Position
  | [] => ([], position)
  | x :: rest =>
    if inComment then passBlanks (x != '\n') (position.after x) rest
    else if isBlank x then passBlanks false (position.after x) rest
    else if x == '#' then passBlanks true (position.after x) rest
    else (x :: rest, position)

def skip (c : Cursor) : Cursor :=
  if c.isExtended then
    let (rest, position) := passBlanks false c.position c.rest
    { c with rest := rest, position := position }
  else c

/-- Passes one character and what may be skipped behind it. -/
def nextSkipping (c : Cursor) : Cursor := c.next.skip

/-- The span of the next character. -/
def charSpan (c : Cursor) : Span := ⟨c.position, c.next.position⟩

def collectFuel (accepts : Char → Bool) (advance : Cursor → Cursor) : Nat → Cursor → List Char × Cursor
  | 0, c => ([], c)
  | fuel + 1, c =>
    match c.rest with
    | [] => ([], c)
    | x :: _ =>
      if accepts x then
        let (xs, after) := collectFuel accepts advance fuel (advance c)
        (x :: xs, after)
      else ([], c)

/-- The next characters that are accepted, and the cursor behind them. -/
def collect (accepts : Char → Bool) (advance : Cursor → Cursor) (c : Cursor) : List Char × Cursor :=
  collectFuel accepts advance c.rest.length c

/-- The character after the next one, without blanks and the mark of a comment between them. -/
def second? (c : Cursor) : Option Char :=
  let tail := c.rest.drop 1
  let shown :=
    if c.isExtended then
      match tail.dropWhile isBlank with
      | '#' :: comment => comment.dropWhile isBlank
      | others => others
    else tail
  shown.head?.or tail.head?

end Cursor

abbrev Reading := StateT Cursor (Except Complaint)

namespace Reading

def complain {α : Type} (kind : Misreading) (span : Span) : Reading α := throw ⟨kind, span, none⟩

def char? : Reading (Option Char) := do return (← get).rest.head?

def position : Reading Position := do return (← get).position

def atEnd : Reading Bool := do return (← get).rest.isEmpty

def next : Reading Unit := modify Cursor.next

def skip : Reading Unit := modify Cursor.skip

def nextSkipping : Reading Unit := modify Cursor.nextSkipping

def charSpan : Reading Span := do return (← get).charSpan

/-- The empty span at the next character. -/
def here : Reading Span := do return .between (← get).position

/-- The span from a position up to the next character. -/
def since (start : Position) : Reading Span := do return ⟨start, (← get).position⟩

def collect (accepts : Char → Bool) (advance : Cursor → Cursor) : Reading (List Char) :=
  modifyGet (Cursor.collect accepts advance)

/-- Passes a text if it comes next. -/
def accept (text : String) : Reading Bool := do
  let c ← get
  if text.toList.isPrefixOf c.rest then
    set (text.toList.foldl (fun c _ => Cursor.next c) c)
    return true
  else return false

/-- Passes the first of the texts that comes next. -/
def acceptAny : List String → Reading Bool
  | [] => return false
  | text :: rest => do
    if ← accept text then return true
    acceptAny rest

end Reading

end TableLayout.Pattern
