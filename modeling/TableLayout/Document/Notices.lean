import TableLayout.Document.Reader
import TableLayout.Log.Notice

/-!
# Notices about a document

The annotations that mean nothing are remarked on, also on the line that ends the reading, and a document that
is read to its end is counted.
-/

namespace TableLayout

open Text

/-- The annotations that set a flag. -/
def knownAnnotations : List String := ["id", "relation", "noninline"]

/-- The items of the annotation list on a field line that are no flag. -/
def unknownAnnotations (line : List Char) : List String :=
  match takeAnnotations (splitComment line).1 with
  | .ok (annotations, _) =>
    ((annotationItems annotations).map String.ofList).filter (!knownAnnotations.contains ·)
  | .error _ => []

def isHeading (line : List Char) : Bool :=
  ["LAYOUT", "BUILD", "COMMENT"].any fun keyword => (heading? keyword.toList line).isSome

namespace Reader

def lineNotices (number : Nat) (line : List Char) : Reader → List Notice
  | .versions .. =>
    if line.isEmpty || isHeading line then []
    else
      (unknownAnnotations line).map fun item =>
        ⟨.debug, .document, s!"line {number}: ignoring annotation {quoted item}"⟩
  | _ => []

/-- The notices about lines of which the first has the given number, up to the first fault. -/
def notices (number : Nat) (r : Reader) : List (List Char) → List Notice
  | [] => []
  | line :: rest =>
    let line := trimEnd line
    r.lineNotices number line ++
      match r.step line with
      | .ok r => notices (number + 1) r rest
      | .error _ => []

end Reader

def Definitions.countNotice (d : Definitions) : Notice :=
  ⟨.debug, .document,
    s!"parsed definition: {d.columns.length} columns, {d.versions.length} versions"⟩

def documentNotices (text : List Char) : List Notice :=
  Reader.notices 1 .start (lines text) ++
    match Definitions.read text with
    | .ok d => [d.countNotice]
    | .error _ => []

end TableLayout
