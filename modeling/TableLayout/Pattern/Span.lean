/-!
# Places in the text of a pattern
-/

namespace TableLayout.Pattern

structure Position where
  line : Nat
  column : Nat
deriving DecidableEq, Repr

namespace Position

def first : Position := ⟨1, 1⟩

def after (p : Position) (c : Char) : Position :=
  if c = '\n' then ⟨p.line + 1, 1⟩ else ⟨p.line, p.column + 1⟩

def precedes (p q : Position) : Bool :=
  p.line < q.line || (p.line == q.line && p.column < q.column)

end Position

structure Span where
  start : Position
  stop : Position
deriving DecidableEq, Repr

def Span.between (p : Position) : Span := ⟨p, p⟩

def Span.isOneLine (s : Span) : Bool := s.start.line == s.stop.line

def Span.precedes (s t : Span) : Bool :=
  s.start.precedes t.start || (s.start == t.start && s.stop.precedes t.stop)

end TableLayout.Pattern
