import TableLayout.Pattern.Matching
import TableLayout.Pattern.Span

/-!
# Patterns as they are written
-/

namespace TableLayout.Pattern

inductive Flag
  | caseless
  | multiLine
  | dotMatchesNewline
  | swapGreed
  /-- Characters beyond ASCII count as characters. -/
  | wide
  | crlf
  /-- Blanks and comments in the pattern are skipped. -/
  | extended
deriving DecidableEq, Repr

/-- The flags that are set or cleared. -/
abbrev FlagChanges := List (Flag × Bool)

/-- A character, and whether it is written as one byte of two digits. -/
structure Literal where
  char : Char
  isByte : Bool
  span : Span
deriving DecidableEq, Repr

inductive ShorthandKind
  | digit
  | space
  | word
deriving DecidableEq, Repr

/-- A class with a letter for its name. -/
structure Shorthand where
  kind : ShorthandKind
  isNegated : Bool
  span : Span
deriving DecidableEq, Repr

structure Property where
  name : List Char
  span : Span
deriving DecidableEq, Repr

/-- The classes of ASCII that have a name between colons. -/
inductive NamedClass
  | alnum | alpha | ascii | blank | cntrl | digit | graph | lower | print | punct | space | upper | word | xdigit
deriving DecidableEq, Repr

inductive SetOperation
  | intersection
  | difference
  | symmetricDifference
deriving DecidableEq, Repr

/-- What stands between brackets. -/
inductive ClassTree
  | empty (span : Span)
  | literal (literal : Literal)
  | range (low high : Literal) (span : Span)
  | named (kind : NamedClass) (isNegated : Bool) (span : Span)
  | shorthand (shorthand : Shorthand)
  | property (property : Property)
  | bracketed (isNegated : Bool) (body : ClassTree) (span : Span)
  | union (items : List ClassTree) (span : Span)
  | operation (kind : SetOperation) (left right : ClassTree) (span : Span)
deriving Repr

def ClassTree.span : ClassTree → Span
  | .empty span => span
  | .literal l => l.span
  | .range _ _ span => span
  | .named _ _ span => span
  | .shorthand s => s.span
  | .property p => p.span
  | .bracketed _ _ span => span
  | .union _ span => span
  | .operation _ _ _ span => span

/-- What a place must be, before flags say what a line is. -/
inductive PlaceKind
  | lineStart
  | lineEnd
  | textStart
  | textEnd
  | word (kind : WordEdge)
deriving DecidableEq, Repr

inductive Tree
  | empty (span : Span)
  | flags (changes : FlagChanges) (span : Span)
  | literal (literal : Literal)
  | dot (span : Span)
  | place (kind : PlaceKind) (span : Span)
  | shorthand (shorthand : Shorthand)
  | property (property : Property)
  | bracketed (isNegated : Bool) (body : ClassTree) (span : Span)
  | repetition (sub : Tree) (least : Nat) (most : Option Nat) (span : Span)
  | group (changes : FlagChanges) (isCapturing : Bool) (sub : Tree) (span : Span)
  | alternatives (trees : List Tree) (span : Span)
  | sequence (trees : List Tree) (span : Span)
deriving Repr

def Tree.span : Tree → Span
  | .empty span => span
  | .flags _ span => span
  | .literal l => l.span
  | .dot span => span
  | .place _ span => span
  | .shorthand s => s.span
  | .property p => p.span
  | .bracketed _ _ span => span
  | .repetition _ _ _ span => span
  | .group _ _ _ span => span
  | .alternatives _ span => span
  | .sequence _ span => span

end TableLayout.Pattern
