import TableLayout.Column
import TableLayout.Fault
import TableLayout.Version

/-!
# Storage kinds and C++ types

The same field is described twice: by the type of a struct member, and by the kind tag of a descriptor row.
The two agree wherever a field is not a plain key; a plain key is a 32-bit integer as a member, while its tag
follows the column.
-/

namespace TableLayout

/-- The tag of a descriptor row. -/
inductive StorageKind
  | byte
  | short
  | int
  | long
  | string
  | unlocalizedString
  | float
deriving DecidableEq, Repr

def StorageKind.tag : StorageKind → String
  | .byte => "FT_BYTE"
  | .short => "FT_SHORT"
  | .int => "FT_INT"
  | .long => "FT_LONG"
  | .string => "FT_STRING"
  | .unlocalizedString => "FT_STRING_NOT_LOCALIZED"
  | .float => "FT_FLOAT"

/-- The tables that tag storage: only the metadata tells localized strings from others. -/
inductive KindTable
  | metadata
  | loadInfo
deriving DecidableEq, Repr

/-- The integer widths that can be stored. -/
inductive IntWidth
  | w8
  | w16
  | w32
  | w64
deriving DecidableEq, Repr

namespace IntWidth

def ofSize? (size : UInt32) : Option IntWidth :=
  if size = 8 then some .w8
  else if size = 16 then some .w16
  else if size = 32 then some .w32
  else if size = 64 then some .w64
  else none

def kind : IntWidth → StorageKind
  | .w8 => .byte
  | .w16 => .short
  | .w32 => .int
  | .w64 => .long

def typeText : IntWidth → String
  | .w8 => "int8"
  | .w16 => "int16"
  | .w32 => "int32"
  | .w64 => "int64"

end IntWidth

/-- What one element of a member is. -/
inductive ScalarType
  | int (width : IntWidth) (signed : Bool)
  | float
  | charPointer
  | localizedString
  /-- A localized string as plain text, which has no length of its own. -/
  | plainString
deriving DecidableEq, Repr

def ScalarType.text : ScalarType → String
  | .int width signed => if signed then width.typeText else "u" ++ width.typeText
  | .float => "float"
  | .charPointer => "char const*"
  | .localizedString => "LocalizedString"
  | .plainString => "string[0]"

/-- The type of a struct member: a scalar, or a fixed array of at least one. -/
structure MemberType where
  element : ScalarType
  /-- 0 for a scalar. -/
  length : UInt32
deriving DecidableEq, Repr

def MemberType.text (t : MemberType) : String :=
  if t.length = 0 then t.element.text else s!"std::array<{t.element.text}, {t.length.toNat}>"

namespace Field

def unsupported (f : Field) (c : Column) : Fault := .unsupportedType f.name c.type.token

def badSize (f : Field) : Fault := .fieldSize f.name f.size

def width (f : Field) : Except Fault IntWidth :=
  match IntWidth.ofSize? f.size with
  | some w => .ok w
  | none => .error f.badSize

/-- The tag of a field in one of the tables. -/
def kind (f : Field) (c : Column) (table : KindTable) : Except Fault StorageKind :=
  match c.type with
  | .int => f.width.map IntWidth.kind
  | .string =>
    match table with
    | .metadata => .ok .unlocalizedString
    | .loadInfo => .ok .string
  | .localized => .ok .string
  | .float => .ok .float
  | .other _ => .error (f.unsupported c)

/-- The type of one element, as the column declares it. -/
def declaredType (f : Field) (c : Column) (localize : Bool) : Except Fault ScalarType :=
  match c.type with
  | .int => f.width.map (.int · f.isSigned)
  | .string => .ok .charPointer
  | .localized =>
    if f.isArray then .error (.localizedArray f.name f.length)
    else .ok (if localize then .localizedString else .plainString)
  | .float => .ok .float
  | .other _ => .error (f.unsupported c)

/-- The type of the struct member for a field; with `localize`, localized strings keep their own type. -/
def memberType (f : Field) (c : Column) (localize : Bool) : Except Fault MemberType :=
  if f.isPlainKey then .ok ⟨.int .w32 true, f.length⟩
  else (f.declaredType c localize).map (⟨·, f.length⟩)

end Field

end TableLayout
