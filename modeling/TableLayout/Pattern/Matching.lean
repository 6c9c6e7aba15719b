import TableLayout.Pattern.CharSet

/-!
# Matching

Where a pattern can start in a text is a set of places, kept as the bits of a number: bit `i` is the place before
character `i`. A pattern leads from the places where it starts to those where it can end; it occurs in a text if
any place can be reached.
-/

namespace TableLayout

/-- Where a word begins or ends: on both sides of the place, or looking to one side only. -/
inductive WordEdge
  | edge
  | noEdge
  | start
  | stop
  | startHalf
  | stopHalf
deriving DecidableEq, Repr

/-- What a place must be. -/
inductive PlaceTest
  | textStart
  | textEnd
  /-- With `crlf`, a carriage return ends a line too, and one before a newline ends it together with that. -/
  | lineStart (crlf : Bool)
  | lineEnd (crlf : Bool)
  | word (kind : WordEdge)
deriving DecidableEq, Repr

inductive Pattern
  | empty
  | one (set : CharSet)
  | place (test : PlaceTest)
  | append (first second : Pattern)
  | either (first second : Pattern)
  | repetition (sub : Pattern) (least : Nat) (most : Option Nat)
  /-- A part that is remembered. -/
  | group (sub : Pattern)
deriving DecidableEq, Repr

/-! ## Places -/

def isWordChar (c : Char) : Bool := c.isAlphanum || c == '_'

def WordEdge.holds (kind : WordEdge) (before after : Bool) : Bool :=
  match kind with
  | .edge => before != after
  | .noEdge => before == after
  | .start => !before && after
  | .stop => before && !after
  | .startHalf => !before
  | .stopHalf => !after

/-- A place between two characters, of which one is missing at either end of the text. -/
def PlaceTest.holds (test : PlaceTest) (before after : Option Char) : Bool :=
  match test with
  | .textStart => before.isNone
  | .textEnd => after.isNone
  | .lineStart false => before.all (· == '\n')
  | .lineEnd false => after.all (· == '\n')
  | .lineStart true => before.all fun c => c == '\n' || (c == '\r' && after != some '\n')
  | .lineEnd true => after.all fun c => c == '\r' || (c == '\n' && before != some '\r')
  | .word kind => kind.holds (before.any isWordChar) (after.any isWordChar)

/-- The places of a text that pass a test, from place `i` on. -/
def placesFrom (test : Option Char → Option Char → Bool) (i : Nat) (before : Option Char) : List Char → Nat
  | [] => if test before none then 1 <<< i else 0
  | c :: rest => (if test before (some c) then 1 <<< i else 0) ||| placesFrom test (i + 1) (some c) rest

/-- The places of a text that pass a test of the characters on both sides. -/
def placesOf (test : Option Char → Option Char → Bool) (s : List Char) : Nat := placesFrom test 0 none s

namespace Pattern

/-! ## Repetition -/

/-- Applies a step a number of times; it stops when nothing changes. -/
def times (step : Nat → Nat) : Nat → Nat → Nat
  | 0, places => places
  | n + 1, places => if step places = places then places else times step n (step places)

/-- What up to so many steps reach; it stops when nothing is added. -/
def grow (step : Nat → Nat) : Nat → Nat → Nat
  | 0, places => places
  | n + 1, places =>
    let more := places ||| step places
    if more = places then places else grow step n more

/-! ## Matching -/

/-- The places where the pattern can end in `s`, from the places where it starts. -/
def ends (s : List Char) : Pattern → Nat → Nat
  | .empty, places => places
  | .one set, places => (places &&& placesOf (fun _ after => after.any set.has) s) <<< 1
  | .place test, places => places &&& placesOf test.holds s
  | .append first second, places => second.ends s (first.ends s places)
  | .either first second, places => first.ends s places ||| second.ends s places
  | .repetition sub least most, places =>
    grow (sub.ends s) ((most.map (· - least)).getD (s.length + 1)) (times (sub.ends s) least places)
  | .group sub, places => sub.ends s places

/-- The pattern occurs somewhere in the text. -/
def occursIn (p : Pattern) (s : List Char) : Bool := p.ends s (placesOf (fun _ _ => true) s) != 0

end Pattern

end TableLayout
