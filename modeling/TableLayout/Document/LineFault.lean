import TableLayout.Build

/-!
# What can be wrong with a line

The reasons for which a line of a definition document is refused, and their wording.
-/

namespace TableLayout

open Text

inductive LineFault
  | noHeading (line : String)
  | emptyDocument
  | columnShape (body : String)
  | openForeignKey (token : String)
  | foreignKeyShape (key : String)
  | noColumnName
  | duplicateColumn (name : String)
  | noHashes
  | noBuilds
  | build (fault : BuildFault)
  | openAnnotations
  | noFieldName
  | openSize (body : String)
  | size (text : String)
  | openLength (body : String)
  | length (text : String)
  | trailing (text : String)
deriving DecidableEq, Repr

def LineFault.message : LineFault → String
  | .noHeading line => s!"expected COLUMNS, got {quoted line}"
  | .emptyDocument => "empty definition document"
  | .columnShape body => s!"expected '<type> <name>', got {quoted body}"
  | .openForeignKey token => s!"unterminated foreign key in {quoted token}"
  | .foreignKeyShape key => s!"expected <Table::Column>, got {quoted key}"
  | .noColumnName => "column name is empty"
  | .duplicateColumn name => s!"duplicate column {quoted name}"
  | .noHashes => "LAYOUT line lists no hashes"
  | .noBuilds => "BUILD line lists no builds"
  | .build fault => fault.message
  | .openAnnotations => "unterminated annotation list"
  | .noFieldName => "field name is empty"
  | .openSize body => s!"unterminated size in {quoted body}"
  | .size text => s!"invalid field size {quoted text}"
  | .openLength body => s!"unterminated array length in {quoted body}"
  | .length text => s!"invalid array length {quoted text}"
  | .trailing text => s!"unexpected trailing text {quoted text}"

end TableLayout
