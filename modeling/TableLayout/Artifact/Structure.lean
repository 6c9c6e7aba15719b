import TableLayout.Compilation

/-!
# The record structure

One member per line, either plain or with types, names and comments in columns of their own.
-/

namespace TableLayout

open Text

/-- How the members of a structure are laid out. -/
inductive StructStyle
  | plain
  | padded
deriving DecidableEq, Repr

def spaces (n : Nat) : String := String.ofList (List.replicate n ' ')

def indent (depth : Nat) : String := spaces (4 * depth)

def padRight (width : Nat) (s : String) : String := s ++ spaces (width - s.length)

structure Widths where
  type : Nat
  name : Nat
deriving DecidableEq, Repr

/-- A width grows to one more than a longer item, in bytes. -/
def growWidth (width : Nat) (item : String) : Nat :=
  if width < item.utf8ByteSize then item.utf8ByteSize + 1 else width

def Widths.grow (w : Widths) (m : Member) : Widths :=
  ⟨growWidth w.type m.type.text, growWidth w.name m.name⟩

def StructStyle.widths (style : StructStyle) (members : List Member) : Widths :=
  match style with
  | .plain => ⟨0, 0⟩
  | .padded => members.foldl Widths.grow ⟨6, 20⟩

/-- The comment of a member line; in the padded style the column before it ends with its blank. -/
def StructStyle.commentText (style : StructStyle) (comment : String) : String :=
  if comment = "" then ""
  else
    match style with
    | .plain => " // " ++ comment
    | .padded => "// " ++ comment

def memberLine (style : StructStyle) (w : Widths) (m : Member) : String :=
  let line := indent 1 ++ padRight w.type m.type.text ++ " " ++ padRight w.name (m.name ++ ";") ++
    style.commentText m.comment
  String.ofList (trimEnd line.toList)

def Compilation.structureLines (c : Compilation) (style : StructStyle) : List String :=
  let w := style.widths c.members
  ["struct " ++ c.table ++ "Entry", "\x7b"] ++ c.members.map (memberLine style w) ++ ["\x7d;"]

def Compilation.structureText (c : Compilation) (style : StructStyle) : String :=
  unlines (c.structureLines style)

end TableLayout
