import TableLayout.Artifact
import TableLayout.Proofs.Reflection.Run
import TableLayout.Proofs.Storage
import TableLayout.Proofs.Text.Trimming

/-!
# The artifacts of a table agree

Each member has one line in the structure and one block of load rows, as long as its array; the reflection
record has one row for each block of a stored member, with the kind and the length of the block.
-/

namespace TableLayout

open Text

/-! ## Lines of the structure -/

def Declares (m : Member) (line : String) : Prop :=
  ∃ gap rest, line = indent 1 ++ m.type.text ++ spaces (gap + 1) ++ m.name ++ ";" ++ rest

theorem spaces_succ (n : Nat) : spaces n ++ " " = spaces (n + 1) := by
  rw [← String.toList_inj, String.toList_append]
  unfold spaces
  rw [String.toList_ofList, String.toList_ofList, List.replicate_succ']
  simp

theorem memberLine_eq (style : StructStyle) (w : Widths) (m : Member) : memberLine style w m =
    indent 1 ++ m.type.text ++ spaces (w.type - m.type.text.length) ++ " " ++ m.name ++ ";" ++
      String.ofList
        (trimEnd (spaces (w.name - (m.name ++ ";").length) ++ style.commentText m.comment).toList) := by
  let front := indent 1 ++ m.type.text ++ spaces (w.type - m.type.text.length) ++ " " ++ m.name
  let rest := spaces (w.name - (m.name ++ ";").length) ++ style.commentText m.comment
  have line : indent 1 ++ padRight w.type m.type.text ++ " " ++ padRight w.name (m.name ++ ";") ++
      style.commentText m.comment = front ++ ";" ++ rest := by
    simp only [padRight, front, rest, String.append_assoc]
  unfold memberLine
  simp only [line]
  rw [← String.toList_inj, String.toList_ofList, String.toList_append, String.toList_append]
  show trimEnd (front.toList ++ [';'] ++ rest.toList) = _
  rw [List.append_assoc, List.singleton_append, trimEnd_append_cons (by decide)]
  simp [front, rest]

theorem declares_memberLine (style : StructStyle) (w : Widths) (m : Member) :
    Declares m (memberLine style w m) := by
  unfold Declares
  simp only [memberLine_eq, ← spaces_succ, String.append_assoc]
  exact ⟨_, _, rfl⟩

theorem structureText_lines (c : Compilation) (style : StructStyle) : ∃ lines,
    c.structureText style = unlines (["struct " ++ c.table ++ "Entry", "\x7b"] ++ lines ++ ["\x7d;"]) ∧
      List.Forall₂ Declares c.members lines := by
  refine ⟨c.members.map (memberLine style (style.widths c.members)), rfl, ?_⟩
  rw [List.forall₂_map_right_iff, List.forall₂_same]
  exact fun m _ => declares_memberLine ..

/-! ## Blocks of load rows -/

/-- The names of a block are those of the member's values, its type is an array as long as the block, and all
of its rows are alike. -/
structure Member.Block (m : Member) (block : List LoadRow) : Prop where
  array : m.field.length ≠ 0 →
    block.map (·.name) = (List.range m.field.length.toNat).map (fun i => m.name ++ (i + 1).repr) ∧
    ∃ element, m.type.text = "std::array<" ++ element ++ ", " ++ m.field.length.toNat.repr ++ ">"
  scalar : m.field.length = 0 →
    block.map (·.name) = [m.name] ∧ ∀ rest, m.type.text ≠ "std::array<" ++ rest
  uniform : ∃ kind signed, ∀ row ∈ block, row.kind = kind ∧ row.signed = signed

/-- The row stands for the block: its length, and the kind and sign that the block can tell. -/
structure MetaRow.Describes (row : MetaRow) (block : List LoadRow) : Prop where
  length : row.length.toNat = block.length
  kind : ∀ value ∈ block, value.kind = row.kind.collapsed
  signed : row.kind.isInteger = true → ∀ value ∈ block, value.signed = row.signed

def storedBlocks (ms : List Member) (blocks : List (List LoadRow)) : List (List LoadRow) :=
  ((ms.zip blocks).filter (!·.1.field.isUnstored)).map (·.2)

section
variable {m : Member} {block : List LoadRow} {row : MetaRow}

theorem loadRows_eq_ok : m.loadRows = .ok block ↔
    ∃ kind, m.field.kind m.column .loadInfo = .ok kind ∧
      block = m.valueNames.map fun name => ⟨m.loadSigned, kind, name⟩ := by
  unfold Member.loadRows
  simp only [bind_eq_ok, pure, Except.pure, Except.ok.injEq, @eq_comm _ block]

theorem metaRow_eq_ok : m.metaRow = .ok row ↔
    ∃ kind, m.field.kind m.column .metadata = .ok kind ∧
      row = ⟨kind, if m.field.length = 0 then 1 else m.field.length, m.metaSigned⟩ := by
  unfold Member.metaRow
  simp only [bind_eq_ok, pure, Except.pure, Except.ok.injEq, @eq_comm _ row]

theorem length_valueNames (m : Member) :
    m.valueNames.length = (if m.field.length = 0 then 1 else m.field.length).toNat := by
  unfold Member.valueNames Field.isArray
  by_cases h : m.field.length = 0 <;> simp [h]

theorem block_of_loadRows (h : m.loadRows = .ok block) (ht : m.type.length = m.field.length) :
    m.Block block := by
  obtain ⟨kind, -, rfl⟩ := loadRows_eq_ok.mp h
  have names : (m.valueNames.map fun name => (⟨m.loadSigned, kind, name⟩ : LoadRow)).map (·.name) =
      m.valueNames := by simp [Function.comp_def]
  refine ⟨fun hl => ⟨?_, ?_⟩, fun hl => ⟨?_, ?_⟩, kind, m.loadSigned, ?_⟩
  · rw [names]
    simp [Member.valueNames, Field.isArray, hl]
  · have := MemberType.text_of_array (t := m.type) (by rwa [ht])
    rw [ht] at this
    exact ⟨_, this⟩
  · rw [names]
    simp [Member.valueNames, Field.isArray, hl]
  · exact MemberType.text_of_scalar (ht.trans hl)
  · intro row hrow
    obtain ⟨name, -, rfl⟩ := List.mem_map.mp hrow
    exact ⟨rfl, rfl⟩

theorem describes_block (hr : m.metaRow = .ok row) (hb : m.loadRows = .ok block) :
    row.Describes block := by
  obtain ⟨kind, hk, rfl⟩ := metaRow_eq_ok.mp hr
  obtain ⟨kind', hk', rfl⟩ := loadRows_eq_ok.mp hb
  have hkind : kind' = kind.collapsed := by
    rw [Field.kind_loadInfo, hk] at hk'
    exact (Except.ok.inj hk').symm
  refine ⟨?_, fun value hv => ?_, fun hi value hv => ?_⟩
  · rw [List.length_map, length_valueNames]
  · obtain ⟨name, -, rfl⟩ := List.mem_map.mp hv
    exact hkind
  · obtain ⟨name, -, rfl⟩ := List.mem_map.mp hv
    have ht := Field.type_of_integer_kind hk hi
    simp [Member.loadSigned, Member.metaSigned, ht]

end

theorem forall₂_storedBlocks {R : Member → List LoadRow → Prop} {ms : List Member}
    {blocks : List (List LoadRow)} (h : List.Forall₂ R ms blocks) :
    List.Forall₂ R (storedMembers ms) (storedBlocks ms blocks) := by
  induction h with
  | nil => exact .nil
  | @cons m block _ _ hR _ ih =>
    unfold storedMembers storedBlocks at *
    rw [List.zip_cons_cons, List.filter_cons, List.filter_cons]
    cases m.field.isUnstored with
    | true => exact ih
    | false => exact .cons hR ih

theorem length_flatten_blocks {ms : List Member} {blocks : List (List LoadRow)}
    (h : List.Forall₂ (fun m block => m.loadRows = .ok block) ms blocks) :
    blocks.flatten.length = (ms.map fun m => max m.field.length.toNat 1).sum := by
  induction h with
  | nil => rfl
  | @cons m block _ _ hb _ ih =>
    obtain ⟨kind, -, rfl⟩ := loadRows_eq_ok.mp hb
    rw [List.flatten_cons, List.length_append, ih, List.length_map, length_valueNames, List.map_cons,
      List.sum_cons]
    congr 1
    split
    · next hl => simp [hl]
    · next hl =>
      have : m.field.length.toNat ≠ 0 := fun e => hl (UInt32.toNat_inj.mp e)
      omega

theorem render_eq_ok {c : Compilation} {style : StructStyle} {a : Artifacts} :
    c.render style = .ok a ↔ ∃ r rows, c.reflect = .ok r ∧ c.loadRows = .ok rows ∧
      a = ⟨c.structureText style, unlines (c.metadataLines r), unlines (c.loadInfoLines rows)⟩ := by
  unfold Compilation.render Compilation.metadataText Compilation.loadInfoText
  simp only [bind_eq_ok, pure, Except.pure, Except.ok.injEq]
  constructor
  · rintro ⟨_, ⟨r, hr, rfl⟩, _, ⟨rows, hl, rfl⟩, rfl⟩
    exact ⟨r, rows, hr, hl, rfl⟩
  · rintro ⟨r, rows, hr, hl, rfl⟩
    exact ⟨_, ⟨r, hr, rfl⟩, _, ⟨rows, hl, rfl⟩, rfl⟩

theorem compilation_loadRows_eq_ok {c : Compilation} {rows : List LoadRow} :
    c.loadRows = .ok rows ↔ ∃ blocks,
      List.Forall₂ (fun m block => m.loadRows = .ok block) c.members blocks ∧ rows = blocks.flatten := by
  unfold Compilation.loadRows
  simp only [bind_eq_ok, mapM_eq_ok_iff, pure, Except.pure, Except.ok.injEq, @eq_comm _ rows]

/-- All three artifacts of a compiled table describe its members, in their order. -/
theorem artifacts_aligned {d : Definitions} {table : String} {build : Option Build} {fileId : UInt32}
    {localize : Bool} {c : Compilation} (hc : d.compile table build fileId localize = .ok c)
    {style : StructStyle} {a : Artifacts} (ha : c.render style = .ok a) :
    ∃ r lines blocks, c.reflect = .ok r ∧ c.loadRows = .ok blocks.flatten ∧
      a = ⟨unlines (["struct " ++ c.table ++ "Entry", "\x7b"] ++ lines ++ ["\x7d;"]),
        unlines (c.metadataLines r), unlines (c.loadInfoLines blocks.flatten)⟩ ∧
      List.Forall₂ Declares c.members lines ∧
      List.Forall₂ Member.Block c.members blocks ∧
      List.Forall₂ MetaRow.Describes r.rows (storedBlocks c.members blocks) ∧
      blocks.flatten.length = (c.members.map fun m => max m.field.length.toNat 1).sum ∧
      r.rows.length = c.members.countP fun m => !(m.field.isId && m.field.isNonInline) := by
  obtain ⟨r, rows, hr, hl, rfl⟩ := render_eq_ok.mp ha
  obtain ⟨blocks, hb, rfl⟩ := compilation_loadRows_eq_ok.mp hl
  obtain ⟨lines, ht, hlines⟩ := structureText_lines c style
  refine ⟨r, lines, blocks, hr, hl, by rw [ht], hlines, ?_, ?_, length_flatten_blocks hb, ?_⟩
  · have hm : ∀ m ∈ c.members, m.type.length = m.field.length := fun m hm =>
      Field.length_of_memberType (Definitions.memberType_of_compile hc hm)
    have := (List.forall₂_and_left _ _).mpr ⟨hm, hb⟩
    exact this.imp fun m block h => block_of_loadRows h.2 h.1
  · refine forall₂_join ?_ (Reflection.run_rows hr) (forall₂_storedBlocks hb)
    intro m row block hrow hblock
    exact describes_block hrow hblock
  · rw [Reflection.length_rows hr, List.countP_eq_length_filter]
    rfl

def spellsLoadRows : List LoadRow :=
  [⟨false, .int, "ID"⟩, ⟨false, .byte, "Flags1"⟩, ⟨false, .byte, "Flags2"⟩, ⟨false, .byte, "Flags3"⟩,
   ⟨false, .string, "Name"⟩, ⟨true, .int, "MapID"⟩]

theorem render_spells (style : StructStyle) : spellsCompiled.render style =
    .ok ⟨spellsCompiled.structureText style, unlines (spellsCompiled.metadataLines spellsReflection),
      unlines (spellsCompiled.loadInfoLines spellsLoadRows)⟩ :=
  render_eq_ok.mpr ⟨_, _, reflect_spells, by decide +kernel, rfl⟩

/-- Four members make four blocks of six load rows, of which the first has no row in the record. -/
theorem artifacts_aligned_spells : spells.compile "Spell" none 0 true = .ok spellsCompiled ∧
    ∃ a, spellsCompiled.render .padded = .ok a ∧
      ∃ blocks, spellsCompiled.loadRows = .ok blocks.flatten ∧ blocks.flatten.length = 6 ∧
        List.Forall₂ Member.Block spellsCompiled.members blocks ∧
        List.Forall₂ MetaRow.Describes spellsReflection.rows (storedBlocks spellsCompiled.members blocks) := by
  refine ⟨compile_spells, _, render_spells .padded, ?_⟩
  obtain ⟨r, lines, blocks, hr, hl, -, -, hb, hd, hlen, -⟩ :=
    artifacts_aligned compile_spells (render_spells .padded)
  obtain rfl := Except.ok.inj (reflect_spells.symm.trans hr)
  exact ⟨blocks, hl, hlen, hb, hd⟩

end TableLayout
