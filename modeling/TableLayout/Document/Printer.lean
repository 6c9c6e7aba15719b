import TableLayout.Definitions
import TableLayout.Text.Cut

/-!
# Writing a definition document

The document of given definitions, line by line: the columns, then each version after an empty line. Fields
are written in two ways. The plain one leaves the annotation list out where no flag is set; the canonical one
always writes it, so that a name may start with a dollar sign.
-/

namespace TableLayout

open Text

def commentText : Option String → String
  | some comment => " // " ++ comment
  | none => ""

def ForeignKey.text (k : ForeignKey) : String := "<" ++ k.table ++ "::" ++ k.column ++ ">"

def Column.text (c : Column) : String :=
  c.type.token ++ (c.foreign.map ForeignKey.text).getD "" ++ " " ++ c.name ++
    (if c.verified then "" else "?") ++ commentText c.comment

namespace Field

/-- The flags that are set, by their words. -/
def annotations (f : Field) : List String :=
  (if f.isId then ["id"] else []) ++ (if f.isRelation then ["relation"] else []) ++
    (if f.isNonInline then ["noninline"] else [])

def annotationText (f : Field) : String := "$" ++ ",".intercalate f.annotations ++ "$"

/-- A signed size is always written, an unsigned one if it is not 0. -/
def sizeText (f : Field) : String :=
  if f.isSigned then "<" ++ f.size.toNat.repr ++ ">"
  else if f.size = 0 then "" else "<u" ++ f.size.toNat.repr ++ ">"

def lengthText (f : Field) : String :=
  if f.length = 0 then "" else "[" ++ f.length.toNat.repr ++ "]"

def bodyText (f : Field) : String := f.name ++ f.sizeText ++ f.lengthText ++ commentText f.comment

def plainText (f : Field) : String :=
  if f.annotations.isEmpty then f.bodyText else f.annotationText ++ f.bodyText

def canonicalText (f : Field) : String := f.annotationText ++ f.bodyText

end Field

namespace Version

def layoutLines (v : Version) : List String :=
  if v.layoutHashes.isEmpty then [] else ["LAYOUT " ++ ", ".intercalate v.layoutHashes]

/-- The builds and then the ranges, on one line. -/
def buildLines (v : Version) : List String :=
  let items := v.builds.map Build.text ++ v.ranges.map BuildRange.text
  if items.isEmpty then [] else ["BUILD " ++ ", ".intercalate items]

/-- The lines of a version after its empty one, with its fields written by `field`. -/
def lines (field : Field → String) (v : Version) : List String :=
  v.layoutLines ++ v.buildLines ++ v.comments.map ("COMMENT " ++ ·) ++ v.fields.map field

end Version

namespace Definitions

def documentLines (field : Field → String) (d : Definitions) : List String :=
  "COLUMNS" :: d.columns.map Column.text ++ d.versions.flatMap fun v => "" :: v.lines field

def plainText (d : Definitions) : String := unlines (d.documentLines Field.plainText)

def canonicalText (d : Definitions) : String := unlines (d.documentLines Field.canonicalText)

end Definitions

end TableLayout
