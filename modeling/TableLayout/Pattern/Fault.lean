import TableLayout.Pattern.Span

/-!
# What is wrong with a pattern

A pattern may be malformed, ask for what is not at hand, or be too large. A complaint about a malformed one shows
the pattern with carets under the place.
-/

namespace TableLayout.Pattern

inductive Misreading
  | classEscape
  | classRange
  | classRangeBoundary
  | classUnclosed
  | decimalEmpty
  | decimalLarge
  | hexEmpty
  | hexNoCharacter
  | hexDigit
  | escapeUnfinished
  | escapeUnknown
  | flagDanglingNegation
  | flagRepeated
  | flagNegationRepeated
  | flagUnfinished
  | flagUnknown
  | nameRepeated
  | nameEmpty
  | nameCharacter
  | nameUnclosed
  | groupUnclosed
  | groupUnopened
  | nestedTooDeep (limit : Nat)
  | countOrder
  | countEmpty
  | countUnclosed
  | repetitionOfNothing
  | boundaryUnclosed
  | boundaryUnknown
  | boundaryOrCountUnfinished
  | propertyMalformed
  | backreference
  | lookaround
  | beyondAscii
  | notText
  | propertyUnknown
  | propertyValueUnknown
  | shorthandUnavailable
  | caseUnavailable
deriving DecidableEq, Repr

def Misreading.message : Misreading → String
  | .classEscape => "invalid escape sequence found in character class"
  | .classRange => "invalid character class range, the start must be <= the end"
  | .classRangeBoundary => "invalid range boundary, must be a literal"
  | .classUnclosed => "unclosed character class"
  | .decimalEmpty => "decimal literal empty"
  | .decimalLarge => "decimal literal invalid"
  | .hexEmpty => "hexadecimal literal empty"
  | .hexNoCharacter => "hexadecimal literal is not a Unicode scalar value"
  | .hexDigit => "invalid hexadecimal digit"
  | .escapeUnfinished => "incomplete escape sequence, reached end of pattern prematurely"
  | .escapeUnknown => "unrecognized escape sequence"
  | .flagDanglingNegation => "dangling flag negation operator"
  | .flagRepeated => "duplicate flag"
  | .flagNegationRepeated => "flag negation operator repeated"
  | .flagUnfinished => "expected flag but got end of regex"
  | .flagUnknown => "unrecognized flag"
  | .nameRepeated => "duplicate capture group name"
  | .nameEmpty => "empty capture group name"
  | .nameCharacter => "invalid capture group character"
  | .nameUnclosed => "unclosed capture group name"
  | .groupUnclosed => "unclosed group"
  | .groupUnopened => "unopened group"
  | .nestedTooDeep limit => s!"exceed the maximum number of nested parentheses/brackets ({limit})"
  | .countOrder => "invalid repetition count range, the start must be <= the end"
  | .countEmpty => "repetition quantifier expects a valid decimal"
  | .countUnclosed => "unclosed counted repetition"
  | .repetitionOfNothing => "repetition operator missing expression"
  | .boundaryUnclosed =>
    "special word boundary assertion is either unclosed or contains an invalid character"
  | .boundaryUnknown =>
    "unrecognized special word boundary assertion, valid choices are: start, end, start-half or end-half"
  | .boundaryOrCountUnfinished =>
    "found either the beginning of a special word boundary or a bounded repetition on a \\b with an opening " ++
      "brace, but no closing brace"
  | .propertyMalformed => "invalid Unicode character class"
  | .backreference => "backreferences are not supported"
  | .lookaround => "look-around, including look-ahead and look-behind, is not supported"
  | .beyondAscii => "Unicode not allowed here"
  | .notText => "pattern can match invalid UTF-8"
  | .propertyUnknown => "Unicode property not found"
  | .propertyValueUnknown => "Unicode property value not found"
  | .shorthandUnavailable =>
    "Unicode-aware Perl class not found (make sure the unicode-perl feature is enabled)"
  | .caseUnavailable =>
    "Unicode-aware case insensitivity matching is not available (make sure the unicode-case feature is enabled)"

/-- A misreading, where it is, and the earlier place that it conflicts with. -/
structure Complaint where
  kind : Misreading
  span : Span
  earlier : Option Span
deriving DecidableEq, Repr

inductive Fault
  | unreadable (complaint : Complaint)
  /-- Takes more memory than a pattern may. -/
  | tooLarge (limit : Nat)
  /-- Asks where words end that are not of ASCII. -/
  | wordsUnavailable
deriving DecidableEq, Repr

namespace Fault

/-- The lines of a pattern; carriage returns before newlines belong to the line end. -/
def linesOf (pattern : List Char) : List (List Char) :=
  let parts := pattern.splitOn '\n'
  let ended := parts.dropLast.map fun line => if line.getLast? = some '\r' then line.dropLast else line
  match parts.getLast? with
  | some [] => ended
  | some last => ended ++ [last]
  | none => ended

/-- Carets under the spans of a line, which stand in order. -/
def carets (column : Nat) : List Span → List Char
  | [] => []
  | s :: rest =>
    let gap := s.start.column - column
    let width := max 1 (s.stop.column - s.start.column)
    List.replicate gap ' ' ++ List.replicate width '^' ++ carets (column + gap + width) rest

def padLeft (width : Nat) (s : List Char) : List Char := List.replicate (width - s.length) ' ' ++ s

/-- The pattern with carets under its spans; `width` is that of the line numbers, 0 for none. -/
def noted (width : Nat) (spans : List Span) (lines : List (List Char)) : List Char :=
  lines.zipIdx.flatMap fun (line, i) =>
    let margin := if width = 0 then List.replicate 4 ' ' else padLeft width (Nat.toDigits 10 (i + 1)) ++ [':', ' ']
    let here := spans.filter fun s => s.start.line == i + 1
    let notes := List.replicate margin.length ' ' ++ carets 1 here ++ ['\n']
    margin ++ line ++ ['\n'] ++ (if here.isEmpty then [] else notes)

def rangeText (s : Span) : String :=
  s!"on line {s.start.line} (column {s.start.column}) through line {s.stop.line} (column {s.stop.column - 1})\n"

def unreadableText (pattern : List Char) (c : Complaint) : String :=
  let spans := match c.earlier with
    | none => [c.span]
    | some earlier => if c.span.precedes earlier then [c.span, earlier] else [earlier, c.span]
  let lines := linesOf pattern
  let count := lines.length + if pattern.getLast? = some '\n' then 1 else 0
  let width := if count ≤ 1 then 0 else (Nat.toDigits 10 count).length
  let shown := String.ofList (noted width (spans.filter Span.isOneLine) lines)
  let divider := String.ofList (List.replicate 79 '~') ++ "\n"
  let body :=
    if '\n' ∈ pattern then
      divider ++ shown ++ divider ++ String.join ((spans.filter (!·.isOneLine)).map rangeText)
    else shown
  "regex parse error:\n" ++ body ++ "error: " ++ c.kind.message

def message (pattern : List Char) : Fault → String
  | .unreadable complaint => unreadableText pattern complaint
  | .tooLarge limit => s!"Compiled regex exceeds size limit of {limit} bytes."
  | .wordsUnavailable => "error building NFA"

end Fault

end TableLayout.Pattern
