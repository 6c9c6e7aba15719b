import TableLayout.Pattern.Fault
import TableLayout.Pattern.Matching
import TableLayout.Pattern.Reader

/-!
# What patterns mean

The flags decide what a part of a pattern matches. Only the letters and digits of ASCII are known: where
characters beyond ASCII count, their classes, their case and the words that they form are not at hand; where
they do not count, no part may match a piece of one.
-/

namespace TableLayout.Pattern

structure Flags where
  isCaseless : Bool := false
  isMultiLine : Bool := false
  dotMatchesNewline : Bool := false
  isWide : Bool := true
  isCrlf : Bool := false
deriving DecidableEq, Repr

namespace Flags

def change (f : Flags) : Flag × Bool → Flags
  | (.caseless, on) => { f with isCaseless := on }
  | (.multiLine, on) => { f with isMultiLine := on }
  | (.dotMatchesNewline, on) => { f with dotMatchesNewline := on }
  | (.wide, on) => { f with isWide := on }
  | (.crlf, on) => { f with isCrlf := on }
  | (.swapGreed, _) => f
  | (.extended, _) => f

def apply (f : Flags) (changes : FlagChanges) : Flags := changes.foldl change f

/-- The greatest number that a set can hold. -/
def top (f : Flags) : Nat := if f.isWide then 0x10FFFF else 0xFF

end Flags

abbrev Judged := Except Complaint

def refuse {α : Type} (kind : Misreading) (span : Span) : Judged α := throw ⟨kind, span, none⟩

/-! ## Classes -/

def NamedClass.set : NamedClass → CharSet
  | .alnum => [(0x30, 0x39), (0x41, 0x5A), (0x61, 0x7A)]
  | .alpha => [(0x41, 0x5A), (0x61, 0x7A)]
  | .ascii => [(0x00, 0x7F)]
  | .blank => [(0x09, 0x09), (0x20, 0x20)]
  | .cntrl => [(0x00, 0x1F), (0x7F, 0x7F)]
  | .digit => [(0x30, 0x39)]
  | .graph => [(0x21, 0x7E)]
  | .lower => [(0x61, 0x7A)]
  | .print => [(0x20, 0x7E)]
  | .punct => [(0x21, 0x2F), (0x3A, 0x40), (0x5B, 0x60), (0x7B, 0x7E)]
  | .space => [(0x09, 0x0D), (0x20, 0x20)]
  | .upper => [(0x41, 0x5A)]
  | .word => [(0x30, 0x39), (0x41, 0x5A), (0x5F, 0x5F), (0x61, 0x7A)]
  | .xdigit => [(0x30, 0x39), (0x41, 0x46), (0x61, 0x66)]

def ShorthandKind.set : ShorthandKind → CharSet
  | .digit => NamedClass.digit.set
  | .space => NamedClass.space.set
  | .word => NamedClass.word.set

/-- Adds the other case of the letters, which is known for ASCII only. -/
def foldCase (f : Flags) (span : Span) (s : CharSet) : Judged CharSet :=
  if !f.isCaseless || s.isEmpty then return s
  else if f.isWide then refuse .caseUnavailable span
  else return s.withBothCases

/-- A class with its case and its negation; without wide characters it holds ASCII only. -/
def settle (f : Flags) (span : Span) (isNegated : Bool) (s : CharSet) : Judged CharSet := do
  let s ← foldCase f span s
  let s := if isNegated then s.complement f.top else s
  if !f.isWide && !s.isWithin 0x7F then refuse .notText span
  return s

def Shorthand.judge (f : Flags) (s : Shorthand) : Judged CharSet := do
  if f.isWide then refuse .shorthandUnavailable s.span
  let set := if s.isNegated then s.kind.set.complement f.top else s.kind.set
  if !set.isWithin 0x7F then refuse .notText s.span
  return set

/-- A name as it is looked up: without blanks, hyphens and underlines, and without a leading `is`. -/
def plainName (name : List Char) : List Char :=
  let isPrefixed := (name.take 2).map Char.toLower == "is".toList
  let name := if isPrefixed then name.drop 2 else name
  let plain := ((name.filter fun c => c.toNat < 0x80 && c != ' ' && c != '_' && c != '-')).map Char.toLower
  if isPrefixed && plain == ['c'] then "isc".toList else plain

/-- No property is at hand; three names could be those of values. -/
def Property.judge (f : Flags) (p : Property) : Judged CharSet :=
  if !f.isWide then refuse .beyondAscii p.span
  else if [":", "="].any fun sign => sign.toList.any p.name.contains then refuse .propertyUnknown p.span
  else if ["cf", "sc", "lc"].contains (String.ofList (plainName p.name)) then
    refuse .propertyValueUnknown p.span
  else refuse .propertyUnknown p.span

/-- A byte beyond ASCII is a piece of a character. -/
def Literal.check (f : Flags) (l : Literal) : Judged Unit :=
  if !f.isWide && l.isByte && 0x7F < l.char.toNat then refuse .notText l.span else return

def Literal.code (f : Flags) (l : Literal) : Judged Nat := do
  l.check f
  if !f.isWide && 0x7F < l.char.toNat then refuse .beyondAscii l.span
  return l.char.toNat

def SetOperation.apply (kind : SetOperation) (f : Flags) (left right : CharSet) : CharSet :=
  match kind with
  | .intersection => left.inter right
  | .difference => left.difference f.top right
  | .symmetricDifference => left.symmetricDifference f.top right

mutual

def ClassTree.judge (f : Flags) : ClassTree → Judged CharSet
  | .empty _ => return []
  | .literal l => do
    let n ← l.code f
    return [(n, n)]
  | .range low high _ => do
    let a ← low.code f
    let b ← high.code f
    return [(a, b)]
  | .named kind isNegated span => settle f span isNegated kind.set
  | .shorthand s => s.judge f
  | .property p => p.judge f
  | .bracketed isNegated body span => do
    let s ← body.judge f
    settle f span isNegated s
  | .union items _ => ClassTree.judgeAll f items
  | .operation kind left right _ => do
    let a ← left.judge f
    let b ← right.judge f
    let b ← foldCase f right.span b
    let a ← foldCase f left.span a
    return kind.apply f a b

def ClassTree.judgeAll (f : Flags) : List ClassTree → Judged CharSet
  | [] => return []
  | item :: rest => do
    let s ← item.judge f
    let t ← ClassTree.judgeAll f rest
    return s.union t

end

/-! ## Patterns -/

def Literal.judge (f : Flags) (l : Literal) : Judged CharSet := do
  l.check f
  if f.isCaseless && f.isWide then refuse .caseUnavailable l.span
  return if f.isCaseless then (CharSet.ofChar l.char).withBothCases else .ofChar l.char

def dotSet (f : Flags) : CharSet :=
  if f.dotMatchesNewline then [(0, f.top)]
  else CharSet.complement f.top (if f.isCrlf then [(0xA, 0xA), (0xD, 0xD)] else [(0xA, 0xA)])

def PlaceKind.test (f : Flags) : PlaceKind → PlaceTest
  | .lineStart => if f.isMultiLine then .lineStart f.isCrlf else .textStart
  | .lineEnd => if f.isMultiLine then .lineEnd f.isCrlf else .textEnd
  | .textStart => .textStart
  | .textEnd => .textEnd
  | .word kind => .word kind

def PlaceKind.isWord : PlaceKind → Bool
  | .word _ => true
  | _ => false

/-- The pattern matches nothing but empty texts. -/
def isFlat : Pattern → Bool
  | .empty => true
  | .one _ => false
  | .place _ => true
  | .append first second => first.isFlat && second.isFlat
  | .either first second => first.isFlat && second.isFlat
  | .repetition sub _ _ => sub.isFlat
  | .group sub => sub.isFlat

/-- A repetition; to repeat the empty text more than once adds nothing. -/
def repeated (sub : Pattern) (least : Nat) (most : Option Nat) : Pattern :=
  let (least, most) := if sub.isFlat then (min least 1, some ((most.map (min 1)).getD 1)) else (least, most)
  if most = some 0 then .empty
  else if least = 1 && most = some 1 then sub
  else .repetition sub least most

/-- A part of a pattern, and whether it asks where words end that are not of ASCII. -/
structure Part where
  pattern : Pattern
  needsWords : Bool

namespace Part

def ofSet (s : CharSet) : Part := ⟨.one s, false⟩

def append (a b : Part) : Part := ⟨.append a.pattern b.pattern, a.needsWords || b.needsWords⟩

def either (a b : Part) : Part := ⟨.either a.pattern b.pattern, a.needsWords || b.needsWords⟩

/-- A part that is never repeated asks for nothing. -/
def repetition (sub : Part) (least : Nat) (most : Option Nat) : Part :=
  let pattern := repeated sub.pattern least most
  ⟨pattern, sub.needsWords && pattern != .empty⟩

end Part

mutual

/-- The meaning of a tree, and the flags for what follows it. -/
def Tree.judge (f : Flags) : Tree → Judged (Part × Flags)
  | .empty _ => return (⟨.empty, false⟩, f)
  | .flags changes _ => return (⟨.empty, false⟩, f.apply changes)
  | .literal l => return (.ofSet (← l.judge f), f)
  | .dot span => if f.isWide then return (.ofSet (dotSet f), f) else refuse .notText span
  | .place kind _ => return (⟨.place (kind.test f), kind.isWord && f.isWide⟩, f)
  | .shorthand s => return (.ofSet (← s.judge f), f)
  | .property p => return (.ofSet (← p.judge f), f)
  | .bracketed isNegated body span => do
    let s ← body.judge f
    return (.ofSet (← settle f span isNegated s), f)
  | .repetition sub least most _ => do
    let (part, f) ← sub.judge f
    return (part.repetition least most, f)
  | .group changes isCapturing sub _ => do
    let (part, _) ← sub.judge (f.apply changes)
    return (if isCapturing then ⟨.group part.pattern, part.needsWords⟩ else part, f)
  | .alternatives trees _ => do
    let (parts, f) ← Tree.judgeAll f trees
    return (parts.dropLast.foldr .either (parts.getLastD ⟨.empty, false⟩), f)
  | .sequence trees _ => do
    let (parts, f) ← Tree.judgeAll f trees
    return (parts.dropLast.foldr .append (parts.getLastD ⟨.empty, false⟩), f)

def Tree.judgeAll (f : Flags) : List Tree → Judged (List Part × Flags)
  | [] => return ([], f)
  | tree :: rest => do
    let (part, f) ← tree.judge f
    let (parts, f) ← Tree.judgeAll f rest
    return (part :: parts, f)

end

/-! ## Size -/

/-- About the bytes that a pattern takes when it is prepared for matching. -/
def weight : Pattern → Nat
  | .empty => 32
  | .one set => if set.isWithin 0x7F then 64 + 8 * set.length else 400
  | .place _ => 32
  | .append first second => first.weight + second.weight
  | .either first second => first.weight + second.weight + 72
  | .repetition sub least none => max least 1 * sub.weight + 64
  | .repetition sub least (some most) => least * sub.weight + (most - least) * (sub.weight + 40) + 32
  | .group sub => sub.weight + 64

/-- The most bytes that a pattern may take. -/
def heaviest : Nat := 10485760

def read (s : List Char) : Except Fault Pattern :=
  match Tree.read s >>= Tree.judge {} with
  | .error complaint => .error (.unreadable complaint)
  | .ok (part, _) =>
    if heaviest < part.pattern.weight then .error (.tooLarge heaviest)
    else if part.needsWords then .error .wordsUnavailable
    else .ok part.pattern

end TableLayout.Pattern
