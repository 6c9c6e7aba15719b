import TableLayout.Artifact
import TableLayout.Json

/-!
# The JSON report

A compiled table and its artifacts as one JSON value, with the members of every object in alphabetical order.
-/

namespace TableLayout

def ColumnType.json : ColumnType → Json
  | .other token => .object [("other", .string token)]
  | type => .string type.token

def ForeignKey.json (k : ForeignKey) : Json :=
  .object [("column", .string k.column), ("table", .string k.table)]

def Column.json (c : Column) : Json :=
  .object
    [("comment", .ofOption c.comment), ("foreign", (c.foreign.map ForeignKey.json).getD .null),
     ("name", .string c.name), ("ty", c.type.json), ("verified", .bool c.verified)]

def Field.json (f : Field) : Json :=
  .object
    [("arr_length", .ofNat f.length.toNat), ("comment", .ofOption f.comment), ("is_id", .bool f.isId),
     ("is_non_inline", .bool f.isNonInline), ("is_relation", .bool f.isRelation),
     ("is_signed", .bool f.isSigned), ("name", .string f.name), ("size", .ofNat f.size.toNat)]

def Member.json (m : Member) : Json :=
  .object
    [("column", m.column.json), ("comment", .string m.comment), ("field", m.field.json),
     ("name", .string m.name), ("ty", .string m.type.text)]

def Compilation.json (c : Compilation) : Json :=
  .object
    [("columns", .array (c.members.map Member.json)), ("file_data_id", .ofNat c.fileId.toNat),
     ("layout_hash", .string c.layoutHash), ("source_sha256", .ofOption c.digest),
     ("table_name", .string c.table)]

def Artifacts.json (a : Artifacts) : Json :=
  .object
    [("load_info", .string a.loadInfo), ("metadata", .string a.metadata), ("structure", .string a.record)]

def reportText (c : Compilation) (a : Artifacts) : String :=
  (Json.object [("artifacts", a.json), ("result", c.json)]).pretty 0 ++ "\n"

end TableLayout
