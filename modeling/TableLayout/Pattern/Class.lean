import TableLayout.Pattern.Escape

/-!
# Reading classes

Characters, ranges, named classes and further brackets between brackets, and the operations on what stands left
and right of them; one after the other, without precedence.
-/

namespace TableLayout.Pattern.Reading

/-- Items read one after another, the latest first. -/
structure Items where
  start : Position
  reversed : List ClassTree

namespace Items

def push (items : Items) (item : ClassTree) : Items :=
  ⟨if items.reversed.isEmpty then item.span.start else items.start, item :: items.reversed⟩

def tree (items : Items) : ClassTree :=
  match items.reversed with
  | [] => .empty (.between items.start)
  | [item] => item
  | last :: _ => .union items.reversed.reverse ⟨items.start, last.span.stop⟩

end Items

/-- What waits for a class to go on. -/
inductive ClassFrame
  /-- A bracket, behind the items before it. -/
  | bracket (before : Items) (isNegated : Bool) (span : Span)
  | operation (kind : SetOperation) (left : ClassTree)

/-- The tree that ends here, with the operation that waits for it. -/
def closeOperation (stack : List ClassFrame) (right : ClassTree) : ClassTree × List ClassFrame :=
  match stack with
  | .operation kind left :: rest => (.operation kind left right ⟨left.span.start, right.span.stop⟩, rest)
  | _ => (right, stack)

/-- The class that is not closed is the innermost one. -/
def unclosedSpan (stack : List ClassFrame) (fallback : Span) : Span :=
  (stack.findSome? fun frame => match frame with
    | .bracket _ _ span => some span
    | .operation _ _ => none).getD fallback

/-! ## Items -/

def namedClasses : List (String × NamedClass) :=
  [("alnum", .alnum), ("alpha", .alpha), ("ascii", .ascii), ("blank", .blank), ("cntrl", .cntrl),
   ("digit", .digit), ("graph", .graph), ("lower", .lower), ("print", .print), ("punct", .punct),
   ("space", .space), ("upper", .upper), ("word", .word), ("xdigit", .xdigit)]

/-- Reads a class such as `[:alpha:]`; anything else is left. -/
def namedClass? : Reading (Option ClassTree) := do
  let before ← get
  let start ← position
  if !(← accept "[:") then return none
  let isNegated ← accept "^"
  let name ← collect (· != ':') Cursor.next
  let isClosed ← accept ":]"
  match namedClasses.lookup (String.ofList name) with
  | some kind =>
    if isClosed then return some (.named kind isNegated (← since start))
    set before
    return none
  | none =>
    set before
    return none

/-- A character or an escape. -/
def classPrimitive : Reading Tree := do
  match ← char? with
  | some '\\' => escape
  | some c =>
    let span ← charSpan
    next
    return .literal ⟨c, false, span⟩
  | none => return .empty (← here)

def classItem (tree : Tree) : Reading ClassTree :=
  match tree with
  | .literal l => return .literal l
  | .shorthand s => return .shorthand s
  | .property p => return .property p
  | tree => complain .classEscape tree.span

def boundary (tree : Tree) : Reading Literal :=
  match tree with
  | .literal l => return l
  | tree => complain .classRangeBoundary tree.span

/-- Reads an item or a range; `unclosed` is where the class starts. -/
def classRange (unclosed : Span) : Reading ClassTree := do
  let first ← classPrimitive
  skip
  let c ← get
  if c.rest.isEmpty then complain .classUnclosed unclosed
  if c.rest.head? != some '-' || c.second? = some ']' || c.second? = some '-' then classItem first
  else
    nextSkipping
    if ← atEnd then complain .classUnclosed unclosed
    let second ← classPrimitive
    let span : Span := ⟨first.span.start, second.span.stop⟩
    let low ← boundary first
    let high ← boundary second
    if high.char < low.char then complain .classRange span
    return .range low high span

/-- The hyphens at the start of a class stand for themselves. -/
def hyphens (start : Position) (items : Items) : Nat → Reading Items
  | 0 => return items
  | fuel + 1 => do
    if (← char?) = some '-' then
      let items := items.push (.literal ⟨'-', false, ← charSpan⟩)
      nextSkipping
      if ← atEnd then complain .classUnclosed (.between start)
      hyphens start items fuel
    else return items

/-- Reads an opening bracket and what stands for itself behind it. -/
def openClass (before : Items) : Reading (ClassFrame × Items) := do
  let start ← position
  nextSkipping
  if ← atEnd then complain .classUnclosed (← since start)
  let isNegated := (← char?) = some '^'
  if isNegated then
    nextSkipping
    if ← atEnd then complain .classUnclosed (← since start)
  let items ← hyphens start ⟨← position, []⟩ (← get).rest.length
  let items ←
    if items.reversed.isEmpty && (← char?) = some ']' then do
      let items := items.push (.literal ⟨']', false, ← charSpan⟩)
      nextSkipping
      if ← atEnd then complain .classUnclosed (← since start)
      pure items
    else pure items
  return (.bracket before isNegated (← since start), items)

/-! ## Classes -/

/-- The operation whose sign comes next. -/
def operation? : Reading (Option SetOperation) := do
  if ← accept "&&" then return some .intersection
  else if ← accept "--" then return some .difference
  else if ← accept "~~" then return some .symmetricDifference
  else return none

/-- Reads on in the innermost of the open classes; every round passes a character. -/
def classFrom (stack : List ClassFrame) (items : Items) : (fuel : Nat) → Reading Tree
  | 0 => return .empty (← here)
  | fuel + 1 => do
    skip
    let unclosed := unclosedSpan stack (← here)
    match ← char? with
    | none => complain .classUnclosed unclosed
    | some '[' =>
      match ← namedClass? with
      | some item => classFrom stack (items.push item) fuel
      | none =>
        let (frame, inner) ← openClass items
        classFrom (frame :: stack) inner fuel
    | some ']' =>
      next
      let (body, stack) := closeOperation stack items.tree
      match stack with
      | .bracket before isNegated span :: rest =>
        let span ← since span.start
        if rest.isEmpty then return .bracketed isNegated body span
        else classFrom rest (before.push (.bracketed isNegated body span)) fuel
      | _ => return .empty (← here)
    | some _ =>
      match ← operation? with
      | some kind =>
        let (left, stack) := closeOperation stack items.tree
        classFrom (.operation kind left :: stack) ⟨← position, []⟩ fuel
      | none => classFrom stack (items.push (← classRange unclosed)) fuel

/-- Reads a class from its opening bracket on. -/
def bracketed : Reading Tree := do
  let (frame, items) ← openClass ⟨← position, []⟩
  classFrom [frame] items ((← get).rest.length + 1)

end TableLayout.Pattern.Reading
