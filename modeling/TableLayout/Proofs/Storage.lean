import TableLayout.Proofs.Traversal
import TableLayout.Storage

/-!
# The two descriptions of a field

Kinds of the two tables differ only in strings, which the load table does not tell apart. The type of a member
is an array exactly when the field has a length. A field that is no plain key has a type exactly when it has a kind,
arrays of localized strings apart, and then the two name one storage.
-/

namespace TableLayout

namespace StorageKind

/-- The kind in a table that does not tell localized strings from others. -/
def collapsed : StorageKind → StorageKind
  | .unlocalizedString => .string
  | kind => kind

def isInteger : StorageKind → Bool
  | .byte | .short | .int | .long => true
  | .string | .unlocalizedString | .float => false

end StorageKind

namespace IntWidth

theorem ofSize?_eq_none_iff {size : UInt32} :
    ofSize? size = none ↔ size ∉ ([8, 16, 32, 64] : List UInt32) := by
  unfold ofSize?
  by_cases h₁ : size = 8
  · simp [h₁]
  by_cases h₂ : size = 16
  · simp [h₂]
  by_cases h₃ : size = 32
  · simp [h₃]
  by_cases h₄ : size = 64
  · simp [h₄]
  simp [h₁, h₂, h₃, h₄]

theorem ofSize?_eq_w32_iff {size : UInt32} : ofSize? size = some .w32 ↔ size = 32 := by
  constructor
  · intro h
    unfold ofSize? at h
    split at h
    · cases h
    split at h
    · cases h
    split at h
    · next hs => exact hs
    split at h
    · cases h
    · cases h
  · rintro rfl
    rfl

end IntWidth

namespace Field

theorem width_eq_ok_iff {f : Field} {w : IntWidth} : f.width = .ok w ↔ IntWidth.ofSize? f.size = some w := by
  unfold width
  cases IntWidth.ofSize? f.size <;> simp

theorem width_eq_error_iff {f : Field} {fault : Fault} :
    f.width = .error fault ↔ f.size ∉ ([8, 16, 32, 64] : List UInt32) ∧ fault = f.badSize := by
  unfold width
  rw [← IntWidth.ofSize?_eq_none_iff]
  cases IntWidth.ofSize? f.size <;> simp [eq_comm]

theorem kind_loadInfo (f : Field) (c : Column) :
    f.kind c .loadInfo = (f.kind c .metadata).map StorageKind.collapsed := by
  unfold kind
  cases c.type with
  | int =>
    cases f.width with
    | error e => rfl
    | ok w => cases w <;> rfl
  | float => rfl
  | string => rfl
  | localized => rfl
  | other token => rfl

theorem type_of_integer_kind {f : Field} {c : Column} {table : KindTable} {kind : StorageKind}
    (h : f.kind c table = .ok kind) (hi : kind.isInteger = true) : c.type = .int := by
  unfold Field.kind at h
  cases ht : c.type with
  | int => rfl
  | float => rw [ht] at h; cases h; cases hi
  | string => rw [ht] at h; cases table <;> cases h <;> cases hi
  | localized => rw [ht] at h; cases h; cases hi
  | other token => rw [ht] at h; cases h

theorem isPlainKey_iff {f : Field} : f.isPlainKey = true ↔ f.isRelation = true ∧ f.isNonInline = true := by
  simp [isPlainKey]

theorem memberType_of_column {f : Field} (c : Column) (localize : Bool) (hk : ¬f.isPlainKey = true) :
    f.memberType c localize = (f.declaredType c localize).map (⟨·, f.length⟩) := by
  unfold memberType
  rw [if_neg hk]

theorem length_of_memberType {f : Field} {c : Column} {localize : Bool} {t : MemberType}
    (h : f.memberType c localize = .ok t) : t.length = f.length := by
  unfold memberType at h
  split at h
  · cases h
    rfl
  · obtain ⟨e, -, rfl⟩ := map_eq_ok.mp h
    rfl

end Field

theorem ScalarType.text_ne_array (e : ScalarType) (rest : String) :
    e.text ≠ "std::array<" ++ rest := by
  intro h
  have start : e.text.toList.take 11 = "std::array<".toList := by
    rw [h, String.toList_append]
    exact List.take_left' rfl
  cases e with
  | int width signed => revert start; cases width <;> cases signed <;> decide
  | float => revert start; decide
  | charPointer => revert start; decide
  | localizedString => revert start; decide
  | plainString => revert start; decide

namespace MemberType

theorem text_of_scalar {t : MemberType} (h : t.length = 0) (rest : String) :
    t.text ≠ "std::array<" ++ rest := by
  unfold text
  rw [if_pos h]
  exact t.element.text_ne_array rest

theorem text_of_array {t : MemberType} (h : t.length ≠ 0) :
    t.text = "std::array<" ++ t.element.text ++ ", " ++ t.length.toNat.repr ++ ">" := by
  unfold text
  rw [if_neg h]
  rfl

end MemberType

/-! ## One storage -/

/-- The spellings of an element in the structure, each with the kind that a table gives it. -/
def KindTable.storages (table : KindTable) : List (String × StorageKind) :=
  [("int8", .byte), ("uint8", .byte), ("int16", .short), ("uint16", .short), ("int32", .int), ("uint32", .int),
   ("int64", .long), ("uint64", .long), ("float", .float), ("LocalizedString", .string), ("string[0]", .string),
   ("char const*", match table with
      | .metadata => .unlocalizedString
      | .loadInfo => .string)]

theorem ScalarType.text_eq_u_append_iff (e : ScalarType) :
    (∃ base, e.text = "u" ++ base) ↔ ∃ width, e = .int width false := by
  constructor
  · rintro ⟨base, h⟩
    have start : e.text.toList.head? = some 'u' := by
      rw [h, String.toList_append]
      rfl
    cases e with
    | int width signed =>
      cases signed with
      | true => exact absurd start (by cases width <;> decide)
      | false => exact ⟨width, rfl⟩
    | float => exact absurd start (by decide)
    | charPointer => exact absurd start (by decide)
    | localizedString => exact absurd start (by decide)
    | plainString => exact absurd start (by decide)
  · rintro ⟨width, rfl⟩
    exact ⟨width.typeText, rfl⟩

namespace Field
variable {f : Field} {c : Column} {localize : Bool} {table : KindTable}

theorem declaredType_of_kind_error {fault : Fault} (h : f.kind c table = .error fault) :
    f.declaredType c localize = .error fault := by
  unfold kind at h
  unfold declaredType
  cases ht : c.type with
  | int =>
    rw [ht] at h
    exact map_eq_error.mpr (map_eq_error.mp h)
  | float => rw [ht] at h; cases h
  | string => rw [ht] at h; cases table <;> cases h
  | localized => rw [ht] at h; cases h
  | other token => rw [ht] at h; cases h; rfl

theorem exists_declaredType_iff (localize : Bool) : (∃ e, f.declaredType c localize = .ok e) ↔
    (∃ k, f.kind c table = .ok k) ∧ ¬(c.type = .localized ∧ f.length ≠ 0) := by
  unfold declaredType kind
  cases c.type with
  | int => cases f.width <;> simp [Except.map]
  | float => simp
  | string => cases table <;> simp
  | localized => by_cases hl : f.length = 0 <;> simp [isArray, hl]
  | other token => simp

theorem declaredType_eq_ok_iff {e : ScalarType} : f.declaredType c localize = .ok e ↔
    (c.type = .int ∧ ∃ width, f.width = .ok width ∧ e = .int width f.isSigned) ∨
      (c.type = .float ∧ e = .float) ∨ (c.type = .string ∧ e = .charPointer) ∨
      (c.type = .localized ∧ f.length = 0 ∧ e = if localize then .localizedString else .plainString) := by
  unfold declaredType
  cases c.type with
  | int => simp [map_eq_ok, @eq_comm _ e]
  | float => simp [@eq_comm _ e]
  | string => simp [@eq_comm _ e]
  | localized => by_cases hl : f.length = 0 <;> simp [isArray, hl, @eq_comm _ e]
  | other token => simp

section
variable {e : ScalarType} (h : f.declaredType c localize = .ok e)
include h

theorem lookup_storages {k : StorageKind} (hk : f.kind c table = .ok k) :
    table.storages.lookup e.text = some k := by
  unfold kind at hk
  rcases declaredType_eq_ok_iff.mp h with ⟨ht, width, hw, rfl⟩ | ⟨ht, rfl⟩ | ⟨ht, rfl⟩ | ⟨ht, -, rfl⟩
  · rw [ht, hw] at hk
    cases hk
    cases width <;> cases f.isSigned <;> rfl
  · rw [ht] at hk
    cases hk
    rfl
  · rw [ht] at hk
    cases table <;> cases hk <;> rfl
  · rw [ht] at hk
    cases hk
    cases localize <;> rfl

theorem unsigned_iff : (∃ width, e = .int width false) ↔ c.type = .int ∧ f.isSigned = false := by
  rcases declaredType_eq_ok_iff.mp h with ⟨ht, width, -, rfl⟩ | ⟨ht, rfl⟩ | ⟨ht, rfl⟩ | ⟨ht, -, rfl⟩
  · simp [ht]
  · simp [ht]
  · simp [ht]
  · cases localize <;> simp [ht]

end

/-- A field that is no plain key has a type exactly when it has a kind and is no array of localized strings. Without a
kind the type is missing for the same reason. With both, the spelling of the element is one for the kind, it has the
`u` of an unsigned integer, and it stands alone or in an array of the length of the field. -/
theorem descriptions_agree (hkey : ¬(f.isRelation = true ∧ f.isNonInline = true)) (c : Column) (localize : Bool)
    (table : KindTable) :
    ((∃ t, f.memberType c localize = .ok t) ↔
      (∃ k, f.kind c table = .ok k) ∧ ¬(c.type = .localized ∧ f.length ≠ 0)) ∧
    (∀ fault, f.kind c table = .error fault → f.memberType c localize = .error fault) ∧
    ∀ t k, f.memberType c localize = .ok t → f.kind c table = .ok k → ∃ element,
      table.storages.lookup element = some k ∧
      ((∃ base, element = "u" ++ base) ↔ c.type = .int ∧ f.isSigned = false) ∧
      t.text = (if f.length = 0 then element
        else "std::array<" ++ element ++ ", " ++ f.length.toNat.repr ++ ">") ∧
      ((∃ rest, t.text = "std::array<" ++ rest) ↔ f.length ≠ 0) := by
  rw [← isPlainKey_iff] at hkey
  rw [memberType_of_column c localize hkey]
  refine ⟨?_, ?_, ?_⟩
  · rw [← exists_declaredType_iff localize]
    cases f.declaredType c localize <;> simp [Except.map]
  · intro fault h
    rw [declaredType_of_kind_error h]
    rfl
  · intro t k ht hk
    obtain ⟨e, he, rfl⟩ := map_eq_ok.mp ht
    refine ⟨e.text, lookup_storages he hk, ?_, ?_, ?_⟩
    · rw [e.text_eq_u_append_iff, unsigned_iff he]
    · by_cases hl : f.length = 0
      · rw [if_pos hl, MemberType.text, if_pos hl]
      · rw [if_neg hl, MemberType.text_of_array hl]
    · by_cases hl : f.length = 0
      · simp [hl, MemberType.text, e.text_ne_array]
      · have htext := MemberType.text_of_array (t := ⟨e, f.length⟩) hl
        simp only [htext, String.append_assoc, ne_eq, hl, not_false_eq_true, iff_true]
        exact ⟨_, rfl⟩

def doses : Field := ⟨"Doses", 16, false, 3, false, true, false, none⟩

def dosesColumn : Column := ⟨"Doses", .int, none, true, none⟩

/-- The array is an array of shorts in both tables, and with a width that no table has it fails in both descriptions. -/
theorem descriptions_agree_doses : ¬(doses.isRelation = true ∧ doses.isNonInline = true) ∧
    doses.memberType dosesColumn true = .ok ⟨.int .w16 false, 3⟩ ∧ doses.kind dosesColumn .metadata = .ok .short ∧
    (∃ element, KindTable.metadata.storages.lookup element = some .short ∧ (∃ base, element = "u" ++ base) ∧
      (⟨.int .w16 false, 3⟩ : MemberType).text = "std::array<" ++ element ++ ", 3>") ∧
    ({ doses with size := 24 } : Field).memberType dosesColumn true = .error (.fieldSize "Doses" 24) := by
  have hkey : ¬(doses.isRelation = true ∧ doses.isNonInline = true) := by decide
  have ht : doses.memberType dosesColumn true = .ok ⟨.int .w16 false, 3⟩ := rfl
  have hk : doses.kind dosesColumn .metadata = .ok .short := rfl
  refine ⟨hkey, ht, hk, ?_, ?_⟩
  · obtain ⟨element, hlookup, hunsigned, htext, -⟩ := (descriptions_agree hkey dosesColumn true .metadata).2.2 _ _ ht hk
    refine ⟨element, hlookup, hunsigned.mpr ⟨rfl, rfl⟩, ?_⟩
    rw [htext, if_neg (by decide), String.append_assoc, String.append_assoc]
    rfl
  · have hwide : ¬(({ doses with size := 24 } : Field).isRelation = true ∧
        ({ doses with size := 24 } : Field).isNonInline = true) := by decide
    exact (descriptions_agree hwide dosesColumn true .metadata).2.1 _ rfl

end Field

end TableLayout
