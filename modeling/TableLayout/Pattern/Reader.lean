import TableLayout.Pattern.Class
import TableLayout.Text.Letter

/-!
# Reading patterns

A pattern is read from left to right; what is open waits on a stack. Nothing is looked up or judged here but
the form, and at the end how deep the parts are nested.
-/

namespace TableLayout.Pattern.Reading

open Text

/-- The parts of a sequence, the latest first. -/
structure Parts where
  start : Position
  reversed : List Tree

namespace Parts

def push (parts : Parts) (tree : Tree) : Parts := { parts with reversed := tree :: parts.reversed }

/-- The sequence, which ends at `stop`; one part stands for itself. -/
def tree (parts : Parts) (stop : Position) : Tree :=
  match parts.reversed with
  | [] => .empty ⟨parts.start, stop⟩
  | [tree] => tree
  | _ => .sequence parts.reversed.reverse ⟨parts.start, stop⟩

end Parts

structure OpenGroup where
  /-- The span of the parenthesis. -/
  span : Span
  changes : FlagChanges
  isCapturing : Bool

inductive Frame
  /-- A group behind the parts before it, and whether blanks were skipped there. -/
  | group (before : Parts) (opened : OpenGroup) (wasExtended : Bool)
  /-- The alternatives so far, the latest first. -/
  | alternatives (start : Position) (reversed : List Tree)

/-! ## Groups -/

def flag? (c : Char) : Option Flag :=
  [('i', .caseless), ('m', .multiLine), ('s', .dotMatchesNewline), ('U', .swapGreed), ('u', .wide),
   ('R', .crlf), ('x', .extended)].lookup c

/-- Reads flags, of which `seen` come before, without a flag for the sign of negation. -/
def flagsFrom (seen : List (Option Flag × Span)) : (fuel : Nat) → Reading (List (Option Flag × Span))
  | 0 => return seen
  | fuel + 1 => do
    match ← char? with
    | none => return seen
    | some c =>
      if c = ':' || c = ')' then
        match seen.getLast? with
        | some (none, span) => complain .flagDanglingNegation span
        | _ => return seen
      else
        let span ← charSpan
        let item ← if c = '-' then pure none else
          match flag? c with
          | some flag => pure (some flag)
          | none => complain .flagUnknown span
        match seen.find? (·.1 == item) with
        | some (_, earlier) =>
          throw ⟨if item.isNone then .flagNegationRepeated else .flagRepeated, span, some earlier⟩
        | none =>
          next
          if ← atEnd then complain .flagUnfinished (← here)
          flagsFrom (seen ++ [(item, span)]) fuel

/-- The flags before the sign of negation are set and those behind it cleared. -/
def changesOf (items : List (Option Flag × Span)) : FlagChanges :=
  let set := items.takeWhile (·.1.isSome)
  let cleared := items.drop set.length
  set.filterMap (·.1.map (·, true)) ++ cleared.filterMap (·.1.map (·, false))

def startsName (c : Char) : Bool := c == '_' || isAlphabetic c

def continuesName (c : Char) : Bool :=
  c == '_' || c == '.' || c == '[' || c == ']' || isAlphabetic c || isNumeric c

/-- Reads the name of a group up to its closing angle. -/
def groupName : Reading Unit := do
  if ← atEnd then complain .nameUnclosed (← here)
  let start ← position
  if (← char?).any fun c => c != '>' && !startsName c then complain .nameCharacter (← charSpan)
  let name ← collect continuesName Cursor.next
  match ← char? with
  | none => complain .nameUnclosed (← here)
  | some '>' =>
    let span ← since start
    next
    if name.isEmpty then complain .nameEmpty (.between start)
    match (← get).names.lookup name with
    | some earlier => throw ⟨.nameRepeated, span, some earlier⟩
    | none => modify fun c => { c with names := c.names ++ [(name, span)] }
  | some _ => complain .nameCharacter (← charSpan)

/-- Reads an opening parenthesis: the flags that it sets for what follows, or a group. -/
def openGroup : Reading (Tree ⊕ OpenGroup) := do
  let span ← charSpan
  next
  skip
  if ← acceptAny ["?=", "?!", "?<=", "?<!"] then complain .lookaround (← since span.start)
  let inside ← here
  if ← acceptAny ["?P<", "?<"] then
    groupName
    return .inr ⟨span, [], true⟩
  else if ← accept "?" then
    if ← atEnd then complain .groupUnclosed span
    let items ← flagsFrom [] ((← get).rest.length + 1)
    let isFlags := (← char?) = some ')'
    next
    if isFlags then
      if items.isEmpty then complain .repetitionOfNothing inside
      return .inl (.flags (changesOf items) (← since span.start))
    else return .inr ⟨span, changesOf items, false⟩
  else return .inr ⟨span, [], true⟩

/-- Blanks are skipped from here on, as the flags say. -/
def applyExtended (changes : FlagChanges) : Reading Unit :=
  modify fun c => { c with isExtended := (changes.lookup .extended).getD c.isExtended }

/-! ## Repetitions -/

/-- The part that a repetition applies to. -/
def repeated (parts : Parts) : Reading (Tree × Parts) := do
  match parts.reversed with
  | [] => complain .repetitionOfNothing (← here)
  | .empty _ :: _ => complain .repetitionOfNothing (← here)
  | .flags _ _ :: _ => complain .repetitionOfNothing (← here)
  | tree :: before => return (tree, { parts with reversed := before })

def repetition (parts : Parts) (least : Nat) (most : Option Nat) : Reading Parts := do
  let (tree, parts) ← repeated parts
  next
  if (← char?) = some '?' then next
  return parts.push (.repetition tree least most ⟨tree.span.start, (← position)⟩)

def raise {α : Type} : Except Complaint α → Reading α
  | .ok a => return a
  | .error complaint => throw complaint

def countedRepetition (parts : Parts) : Reading Parts := do
  let start ← position
  let (tree, parts) ← repeated parts
  nextSkipping
  if ← atEnd then complain .countUnclosed (← since start)
  let first ← decimal
  if ← atEnd then complain .countUnclosed (← since start)
  let (least, most) ←
    if (← char?) = some ',' then do
      nextSkipping
      if ← atEnd then complain .countUnclosed (← since start)
      let least ← raise first
      if (← char?) = some '\x7d' then pure (least, none)
      else do
        let most ← raise (← decimal)
        pure (least, some most)
    else do
      let count ← raise first
      pure (count, some count)
  if (← char?) != some '\x7d' then complain .countUnclosed (← since start)
  nextSkipping
  if (← char?) = some '?' then next
  let span ← since start
  if most.any (· < least) then complain .countOrder span
  return parts.push (.repetition tree least most ⟨tree.span.start, span.stop⟩)

/-! ## The whole -/

/-- Reads one character, class or place. -/
def primitive : Reading Tree := do
  let span ← charSpan
  match ← char? with
  | none => return .empty span
  | some '\\' => escape
  | some '[' => bracketed
  | some c =>
    next
    match c with
    | '.' => return .dot span
    | '^' => return .place .lineStart span
    | '$' => return .place .lineEnd span
    | c => return .literal ⟨c, false, span⟩

/-- The alternatives that end with `last`. -/
def alternativesOf (start : Position) (reversed : List Tree) (last : Tree) (stop : Position) : Tree :=
  .alternatives (last :: reversed).reverse ⟨start, stop⟩

def closeGroup (stack : List Frame) (parts : Parts) : Reading (List Frame × Parts) := do
  let stop ← position
  let close (before : Parts) (opened : OpenGroup) (wasExtended : Bool) (body : Tree) : Reading Parts := do
    modify fun c => { c with isExtended := wasExtended }
    next
    return before.push (.group opened.changes opened.isCapturing body (← since opened.span.start))
  match stack with
  | .group before opened wasExtended :: rest =>
    return (rest, ← close before opened wasExtended (parts.tree stop))
  | .alternatives start reversed :: .group before opened wasExtended :: rest =>
    return (rest, ← close before opened wasExtended (alternativesOf start reversed (parts.tree stop) stop))
  | _ => complain .groupUnopened (← charSpan)

def close (stack : List Frame) (parts : Parts) : Reading Tree := do
  let stop ← position
  match stack with
  | [] => return parts.tree stop
  | [.alternatives start reversed] => return alternativesOf start reversed (parts.tree stop) stop
  | .group _ opened _ :: _ => complain .groupUnclosed opened.span
  | .alternatives _ _ :: .group _ opened _ :: _ => complain .groupUnclosed opened.span
  | .alternatives _ _ :: .alternatives _ _ :: _ => return parts.tree stop

def alternate (stack : List Frame) (parts : Parts) : Reading (List Frame × Parts) := do
  let stop ← position
  next
  let parts' : Parts := ⟨← position, []⟩
  match stack with
  | .alternatives start reversed :: rest => return (.alternatives start (parts.tree stop :: reversed) :: rest, parts')
  | rest => return (.alternatives parts.start [parts.tree stop] :: rest, parts')

/-- Reads on behind `parts`; every round passes a character. -/
def treeFrom (stack : List Frame) (parts : Parts) : (fuel : Nat) → Reading Tree
  | 0 => close stack parts
  | fuel + 1 => do
    skip
    match ← char? with
    | none => close stack parts
    | some '(' =>
      let wasExtended := (← get).isExtended
      match ← openGroup with
      | .inl tree =>
        match tree with
        | .flags changes _ => applyExtended changes
        | _ => pure ()
        treeFrom stack (parts.push tree) fuel
      | .inr opened =>
        applyExtended opened.changes
        treeFrom (.group parts opened wasExtended :: stack) ⟨← position, []⟩ fuel
    | some ')' =>
      let (stack, parts) ← closeGroup stack parts
      treeFrom stack parts fuel
    | some '|' =>
      let (stack, parts) ← alternate stack parts
      treeFrom stack parts fuel
    | some '?' => treeFrom stack (← repetition parts 0 (some 1)) fuel
    | some '*' => treeFrom stack (← repetition parts 0 none) fuel
    | some '+' => treeFrom stack (← repetition parts 1 none) fuel
    | some '\x7b' => treeFrom stack (← countedRepetition parts) fuel
    | some _ => treeFrom stack (parts.push (← primitive)) fuel

end Reading

/-! ## Nesting -/

def deepest : Nat := 250

/-- Refuses what is nested too deep, `depth` levels down. -/
def nestOne (depth : Nat) (span : Span) : Except Complaint Unit :=
  if depth < deepest then .ok () else .error ⟨.nestedTooDeep deepest, span, none⟩

mutual

def ClassTree.checkDepth (depth : Nat) : ClassTree → Except Complaint Unit
  | .bracketed _ body span => do
    nestOne depth span
    body.checkDepth (depth + 1)
  | .union items span => do
    nestOne depth span
    ClassTree.checkDepths (depth + 1) items
  | .operation _ left right span => do
    nestOne depth span
    left.checkDepth (depth + 1)
    right.checkDepth (depth + 1)
  | _ => .ok ()

def ClassTree.checkDepths (depth : Nat) : List ClassTree → Except Complaint Unit
  | [] => .ok ()
  | item :: rest => do
    item.checkDepth depth
    ClassTree.checkDepths depth rest

end

mutual

def Tree.checkDepth (depth : Nat) : Tree → Except Complaint Unit
  | .bracketed _ body span => do
    nestOne depth span
    body.checkDepth (depth + 1)
  | .repetition sub _ _ span => do
    nestOne depth span
    sub.checkDepth (depth + 1)
  | .group _ _ sub span => do
    nestOne depth span
    sub.checkDepth (depth + 1)
  | .alternatives trees span => do
    nestOne depth span
    Tree.checkDepths (depth + 1) trees
  | .sequence trees span => do
    nestOne depth span
    Tree.checkDepths (depth + 1) trees
  | _ => .ok ()

def Tree.checkDepths (depth : Nat) : List Tree → Except Complaint Unit
  | [] => .ok ()
  | tree :: rest => do
    tree.checkDepth depth
    Tree.checkDepths depth rest

end

def Tree.read (pattern : List Char) : Except Complaint Tree := do
  let (tree, _) ← (Reading.treeFrom [] ⟨.first, []⟩ (pattern.length + 1)).run (.ofPattern pattern)
  tree.checkDepth 0
  return tree

end TableLayout.Pattern
