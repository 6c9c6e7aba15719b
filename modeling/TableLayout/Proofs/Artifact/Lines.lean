import TableLayout.Proofs.Alignment
import TableLayout.Proofs.Document.NormalForm
import TableLayout.Proofs.MemberName

/-!
# The lines of an artifact

The names and the hash of a compiled document come from single lines of it. The texts of its artifacts are
therefore rows of lines, and only the last line of each starts with a closing brace.
-/

namespace TableLayout

open Text

structure Compilation.Legible (c : Compilation) : Prop where
  table : '\n' ∉ c.table.toList
  members : ∀ m ∈ c.members, '\n' ∉ m.name.toList
  hash : '\n' ∉ c.layoutHash.toList
  hash_item : ',' ∉ c.layoutHash.toList

theorem Field.Writable.newline_not_mem_name {f : Field} (h : f.Writable) : '\n' ∉ f.name.toList := by
  have htext := h.one_line
  simp only [Field.canonicalText, Field.bodyText, String.toList_append, List.mem_append] at htext
  tauto

theorem version_of_compileDocument {document : ByteArray} {table : String} {build : Option Build}
    {fileId : UInt32} {localize : Bool} {c : Compilation}
    (h : compileDocument document table build fileId localize = .ok c) :
    ∃ d version, readDocument document table = .ok d ∧ d.selected? build = some version ∧ version.Writable ∧
      version.canonicalHash? = some c.layoutHash ∧ c.table = table ∧
      List.Forall₂ (d.Yields localize) version.fields c.members := by
  obtain ⟨text, d, compiled, hdecode, hread, hcompile, rfl⟩ := compileDocument_eq_ok.mp h
  obtain ⟨version, hash, members, hresolve, hyields, rfl⟩ := Definitions.compile_eq_ok.mp hcompile
  obtain ⟨hselected, hhash⟩ := Definitions.resolve_eq_ok.mp hresolve
  have hversion : version.Writable :=
    (Definitions.writable_of_read hread).versions version (Definitions.mem_of_selected? hselected)
  have hdocument : readDocument document table = .ok d := by
    unfold readDocument
    rw [hdecode]
    exact hread
  exact ⟨d, version, hdocument, hselected, hversion, hhash, rfl, hyields⟩

theorem legible_of_compileDocument {document : ByteArray} {table : String} {build : Option Build}
    {fileId : UInt32} {localize : Bool} {c : Compilation}
    (h : compileDocument document table build fileId localize = .ok c) (htable : '\n' ∉ table.toList) :
    c.Legible := by
  obtain ⟨d, version, -, -, hversion, hhash, heq, hyields⟩ := version_of_compileDocument h
  have hitem : IsHash c.layoutHash := hversion.hashes c.layoutHash (List.mem_of_head? hhash)
  exact {
    table := heq ▸ htable
    members := by
      intro m hm
      obtain ⟨f, hf, column, -, hmember⟩ := forall₂_mem_right hyields hm
      obtain ⟨type, -, rfl⟩ := member_eq_ok.mp hmember
      exact newline_not_mem_memberName _ (hversion.fields f hf).newline_not_mem_name
    hash := hitem.one_line
    hash_item := hitem.item.no_comma }

/-! ## Texts of one line -/

theorem newline_not_mem_spaces (n : Nat) : '\n' ∉ (spaces n).toList := by
  simp [spaces]

theorem newline_not_mem_digits (n : Nat) : '\n' ∉ Nat.toDigits 10 n :=
  fun h => absurd (isDigit_of_mem_toDigits h) (by decide)

theorem ScalarType.not_mem_text (e : ScalarType) :
    '\n' ∉ e.text.toList ∧ ';' ∉ e.text.toList ∧ ',' ∉ e.text.toList := by
  cases e with
  | int width signed => cases width <;> cases signed <;> decide
  | float => decide
  | charPointer => decide
  | localizedString => decide
  | plainString => decide

theorem MemberType.not_mem_text (t : MemberType) {c : Char} (hc : c = '\n' ∨ c = ';') : c ∉ t.text.toList := by
  have helement : c ∉ t.element.text.toList := by
    obtain ⟨hnewline, hsemicolon, -⟩ := t.element.not_mem_text
    rcases hc with rfl | rfl
    · exact hnewline
    · exact hsemicolon
  by_cases hl : t.length = 0
  · simpa [MemberType.text, hl] using helement
  · have hdigits : c ∉ t.length.toNat.repr.toList := not_mem_repr (by rcases hc with rfl | rfl <;> decide)
    rw [MemberType.text_of_array hl]
    simp only [String.toList_append, List.mem_append, not_or]
    refine ⟨⟨⟨⟨?_, helement⟩, ?_⟩, hdigits⟩, ?_⟩ <;> rcases hc with rfl | rfl <;> decide

theorem newline_not_mem_flagComment (f : Field) : '\n' ∉ f.flagComment.toList := by
  unfold Field.flagComment
  cases f.isId <;> cases f.isRelation <;> cases f.isNonInline <;> decide

theorem newline_not_mem_tag (k : StorageKind) : '\n' ∉ k.tag.toList := by cases k <;> decide

theorem newline_not_mem_boolText (b : Bool) : '\n' ∉ (boolText b).toList := by cases b <;> decide

/-! ## Lines -/

/-- A line that is not a closing one: it does not start with the brace. -/
structure IsInner (line : String) : Prop where
  one_line : '\n' ∉ line.toList
  opens : line.toList.head? ≠ some '\x7d'

def closing : String := "\x7d;"

/-- Lines of which the last one is the first that closes. -/
def IsDeclaration (ls : List String) : Prop := ∃ body, ls = body ++ [closing] ∧ ∀ l ∈ body, IsInner l

theorem IsDeclaration.one_line {ls : List String} (h : IsDeclaration ls) : ∀ l ∈ ls, '\n' ∉ l.toList := by
  obtain ⟨body, rfl, hbody⟩ := h
  rw [List.forall_mem_append, List.forall_mem_singleton]
  exact ⟨fun l hl => (hbody l hl).one_line, by decide⟩

theorem IsDeclaration.append {front ls : List String} (hfront : ∀ l ∈ front, IsInner l) (h : IsDeclaration ls) :
    IsDeclaration (front ++ ls) := by
  obtain ⟨body, rfl, hbody⟩ := h
  exact ⟨front ++ body, (List.append_assoc ..).symm, List.forall_mem_append.mpr ⟨hfront, hbody⟩⟩

theorem isInner_indented {depth : Nat} {rest : String} (hd : depth ≠ 0) (h : '\n' ∉ rest.toList) :
    IsInner (indent depth ++ rest) := by
  have hindent : (indent depth).toList = ' ' :: List.replicate (4 * depth - 1) ' ' := by
    unfold indent spaces
    rw [String.toList_ofList, ← List.replicate_succ]
    congr 1
    omega
  refine ⟨?_, ?_⟩
  · simp [h, hindent]
  · simp [hindent]

theorem isInner_heading {rest : String} (h : '\n' ∉ rest.toList) : IsInner ("struct " ++ rest) :=
  ⟨by simp [h], by simp⟩

theorem isInner_opening : IsInner "\x7b" := ⟨by decide, by decide⟩

theorem isInner_empty : IsInner "" := ⟨by decide, by decide⟩

theorem StructStyle.newline_not_mem_commentText (style : StructStyle) {comment : String}
    (h : '\n' ∉ comment.toList) : '\n' ∉ (style.commentText comment).toList := by
  unfold commentText
  split
  · exact List.not_mem_nil
  · cases style <;> simp [h]

theorem isInner_memberLine (style : StructStyle) (w : Widths) {m : Member} (h : '\n' ∉ m.name.toList) :
    IsInner (memberLine style w m) := by
  have hcomment := style.newline_not_mem_commentText (newline_not_mem_flagComment m.field)
  constructor
  · unfold memberLine
    rw [String.toList_ofList]
    intro hmem
    have hline := (List.rdropWhile_prefix isBlank _).subset hmem
    revert hline
    simp [indent, padRight, newline_not_mem_spaces, m.type.not_mem_text, h, hcomment, Member.comment]
  · obtain ⟨gap, rest, hline⟩ := declares_memberLine style w m
    rw [hline]
    simp [indent, spaces, List.replicate_succ]

theorem isInner_metaRow (r : MetaRow) : IsInner r.text := by
  have htag := newline_not_mem_tag r.kind
  have hsigned := newline_not_mem_boolText r.signed
  unfold MetaRow.text
  simp only [String.append_assoc]
  apply isInner_indented (by decide)
  simp [htag, hsigned, newline_not_mem_digits]

theorem isInner_loadRow {r : LoadRow} (h : '\n' ∉ r.name.toList) : IsInner r.text := by
  have htag := newline_not_mem_tag r.kind
  have hsigned := newline_not_mem_boolText r.signed
  unfold LoadRow.text
  simp only [String.append_assoc]
  apply isInner_indented (by decide)
  simp [htag, hsigned, h]

/-! ## The three declarations -/

namespace Compilation.Legible
variable {c : Compilation} (h : c.Legible)
include h

theorem structureLines (style : StructStyle) : IsDeclaration (c.structureLines style) := by
  refine ⟨_, rfl, ?_⟩
  intro l hl
  simp only [List.mem_append, List.mem_cons, List.not_mem_nil, or_false, List.mem_map] at hl
  rcases hl with (rfl | rfl) | ⟨m, hm, rfl⟩
  · rw [String.append_assoc]
    exact isInner_heading (by simp [h.table])
  · exact isInner_opening
  · exact isInner_memberLine style _ (h.members m hm)

theorem newline_not_mem_metaArguments (r : Reflection) :
    '\n' ∉ [',', ' '].intercalate ((c.metaArguments r).map String.toList) := by
  intro hmem
  rcases mem_of_mem_intercalate hmem with hsep | ⟨item, hitem, hc⟩
  · exact absurd hsep (by decide)
  · revert hc
    simp only [metaArguments, List.map_cons, List.map_nil, List.mem_cons, List.not_mem_nil, or_false] at hitem
    rcases hitem with rfl | rfl | rfl | rfl | rfl | rfl | rfl
    · simp [newline_not_mem_digits]
    · exact not_mem_toString (by decide) (by decide)
    · simp [newline_not_mem_digits]
    · simp [newline_not_mem_digits]
    · simp [h.hash]
    · decide
    · exact not_mem_toString (by decide) (by decide)

theorem metadataLines (r : Reflection) : IsDeclaration (c.metadataLines r) := by
  have hname : '\n' ∉ c.metaName.toList := by simp [metaName, h.table]
  have harguments := h.newline_not_mem_metaArguments r
  unfold Compilation.metadataLines
  apply IsDeclaration.append
  · intro l hl
    simp only [List.mem_append, List.mem_cons, List.not_mem_nil, or_false, List.mem_map] at hl
    rcases hl with (rfl | rfl | rfl | rfl | rfl | rfl) | ⟨row, hrow, rfl⟩
    · exact isInner_heading hname
    · exact isInner_opening
    · exact isInner_indented (by decide) (by decide)
    · exact isInner_indented (by decide) (by decide)
    · simp only [String.append_assoc]
      exact isInner_indented (by decide) (by simp [newline_not_mem_digits])
    · exact isInner_indented (by decide) (by decide)
    · exact isInner_metaRow row
  · refine ⟨[_, _, _, _, _], rfl, ?_⟩
    intro l hl
    simp only [List.mem_cons, List.not_mem_nil, or_false] at hl
    rcases hl with rfl | rfl | rfl | rfl | rfl
    · exact isInner_indented (by decide) (by decide)
    · exact isInner_empty
    · simp only [String.append_assoc]
      exact isInner_indented (by decide) (by simp [harguments])
    · exact isInner_indented (by decide) (by decide)
    · exact isInner_indented (by decide) (by decide)

theorem newline_not_mem_rowName {rows : List LoadRow} (hrows : c.loadRows = .ok rows) :
    ∀ row ∈ rows, '\n' ∉ row.name.toList := by
  obtain ⟨blocks, hblocks, rfl⟩ := compilation_loadRows_eq_ok.mp hrows
  intro row hrow
  obtain ⟨block, hblock, hmem⟩ := List.mem_flatten.mp hrow
  obtain ⟨m, hm, hload⟩ := forall₂_mem_right hblocks hblock
  obtain ⟨kind, -, rfl⟩ := loadRows_eq_ok.mp hload
  obtain ⟨name, hname, rfl⟩ := List.mem_map.mp hmem
  have hmember := h.members m hm
  unfold Member.valueNames at hname
  split at hname
  · obtain ⟨i, -, rfl⟩ := List.mem_map.mp hname
    simp [hmember, newline_not_mem_digits]
  · rw [List.mem_singleton.mp hname]
    exact hmember

theorem loadInfoLines {rows : List LoadRow} (hrows : c.loadRows = .ok rows) :
    IsDeclaration (c.loadInfoLines rows) := by
  have hname : '\n' ∉ c.metaName.toList := by simp [metaName, h.table]
  have hstatement : '\n' ∉ c.statementName.toList := by
    simp [statementName, screamingSnake, newline_not_mem_snakeFrom false c.table.toList h.table]
  have hnames := h.newline_not_mem_rowName hrows
  unfold Compilation.loadInfoLines
  apply IsDeclaration.append
  · intro l hl
    simp only [List.mem_append, List.mem_cons, List.not_mem_nil, or_false, List.mem_map] at hl
    rcases hl with (rfl | rfl | rfl | rfl) | ⟨row, hrow, rfl⟩
    · rw [String.append_assoc]
      exact isInner_heading (by simp [h.table])
    · exact isInner_opening
    · simp only [String.append_assoc]
      exact isInner_indented (by decide) (by simp [newline_not_mem_digits])
    · exact isInner_indented (by decide) (by decide)
    · exact isInner_loadRow (hnames row hrow)
  · refine ⟨[_, _, _], rfl, ?_⟩
    intro l hl
    simp only [List.mem_cons, List.not_mem_nil, or_false] at hl
    rcases hl with rfl | rfl | rfl
    · exact isInner_indented (by decide) (by decide)
    · exact isInner_empty
    · simp only [String.append_assoc]
      exact isInner_indented (by decide) (by simp [hname, hstatement, newline_not_mem_digits])

end Compilation.Legible

end TableLayout
