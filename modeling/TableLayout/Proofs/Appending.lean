import TableLayout.Artifact
import TableLayout.Proofs.Compiled
import TableLayout.Proofs.Document.ReaderRun
import TableLayout.Proofs.Text.Bytes

/-!
# Appending a version

A block of lines at the end of a document adds one version behind the others. It is not looked at for a build that
an earlier version covers, so that a table compiles to the same as before.
-/

namespace TableLayout

open Text

namespace Definitions

/-! ## Reading -/

theorem read_append_block {text block : List Char} {d d' : Definitions} (h : read text = .ok d)
    (hne : lines block ≠ []) (hfilled : ∀ l ∈ lines block, ∃ c ∈ l, isBlank c = false) :
    read (text ++ '\n' :: '\n' :: block) = .ok d' ↔ ∃ v, v.IsSaidBy (lines block) ∧ d' = d.pushVersion v := by
  obtain ⟨gap, hgap, hempty, hlines⟩ := lines_append_blank text block
  obtain ⟨r, hr, hfinish⟩ := bind_eq_ok.mp h
  have hblock : ∀ b ∈ [(⟨gap, lines block⟩ : Block)], b.WellFormed := by
    intro b hb
    rw [List.mem_singleton.mp hb]
    exact {
      gap_ne := hgap
      gap_blank := fun l hl c hc => by
        rw [hempty l hl] at hc
        cases hc
      lines_ne := hne
      lines_filled := hfilled }
  have hread : read (text ++ '\n' :: '\n' :: block) =
      (Reader.run (1 + (lines text).length) r ([⟨gap, lines block⟩].flatMap Block.all) >>= Reader.finish) := by
    unfold read
    rw [hlines, Reader.run_append, hr]
    simp [Block.all, bind, Except.bind]
  rw [hread, Reader.run_blocks hblock hfinish]
  simp only [List.forall₂_cons_left_iff, List.forall₂_nil_left_iff]
  constructor
  · rintro ⟨vs, ⟨v, vs', hv, rfl, rfl⟩, rfl⟩
    exact ⟨v, hv, rfl⟩
  · rintro ⟨v, hv, rfl⟩
    exact ⟨[v], ⟨v, [], hv, rfl, rfl⟩, rfl⟩

/-! ## Choosing -/

section
variable {d : Definitions} {b : Build} (h : ∃ v ∈ d.versions, v.covers b = true)
include h

theorem covering?_isSome : (d.covering? (some b)).isSome = true := by
  unfold covering?
  rw [Option.bind_some, List.find?_isSome]
  exact h

theorem covering?_pushVersion (v : Version) : (d.pushVersion v).covering? (some b) = d.covering? (some b) := by
  obtain ⟨w, hw⟩ := Option.isSome_iff_exists.mp (covering?_isSome h)
  rw [hw]
  unfold covering? at hw ⊢
  rw [Option.bind_some] at hw ⊢
  unfold pushVersion
  rw [List.find?_append, hw, Option.some_or]

theorem resolve_pushVersion (v : Version) : (d.pushVersion v).resolve (some b) = d.resolve (some b) := by
  obtain ⟨w, hw⟩ := Option.isSome_iff_exists.mp (covering?_isSome h)
  unfold resolve selected?
  rw [covering?_pushVersion h, hw, Option.some_or, Option.some_or]

theorem compile_pushVersion (v : Version) (table : String) (fileId : UInt32) (localize : Bool) :
    (d.pushVersion v).compile table (some b) fileId localize = d.compile table (some b) fileId localize := by
  refine compile_congr ?_ fun _ _ _ _ _ => rfl
  rw [resolve_pushVersion h]

end

end Definitions

/-! ## Compiling -/

theorem readDocument_toUTF8 {text : String} {d : Definitions} (h : Definitions.read text.toList = .ok d)
    (table : String) : readDocument text.toUTF8 table = .ok d := by
  unfold readDocument
  rw [decodeUtf8_toUTF8]
  exact h

theorem compileDocument_toUTF8 {text : String} {d : Definitions} (h : Definitions.read text.toList = .ok d)
    (table : String) (build : Option Build) (fileId : UInt32) (localize : Bool) :
    compileDocument text.toUTF8 table build fileId localize =
      (d.compile table build fileId localize).map fun c =>
        { c with digest := some (Sha256.hexDigest text.toUTF8) } := by
  unfold compileDocument
  rw [readDocument_toUTF8 h]
  simp only [bind, Except.bind]
  cases d.compile table build fileId localize <;> rfl

theorem render_digest (c : Compilation) (digest : Option String) (style : StructStyle) :
    { c with digest := digest }.render style = c.render style := rfl

/-- For a build that a version of the document covers, the document with a block appended to it compiles to the
same up to its digest, or fails in the same way, and so do the artifacts. -/
theorem compileDocument_append_block {text block : String} {d d' : Definitions}
    (hd : Definitions.read text.toList = .ok d) (hne : lines block.toList ≠ [])
    (hfilled : ∀ l ∈ lines block.toList, ∃ c ∈ l, isBlank c = false)
    (hd' : Definitions.read (text ++ "\n\n" ++ block).toList = .ok d') {b : Build}
    (hb : ∃ v ∈ d.versions, v.covers b = true) (table : String) (fileId : UInt32) (localize : Bool) :
    (∃ fault, compileDocument text.toUTF8 table (some b) fileId localize = .error fault ∧
      compileDocument (text ++ "\n\n" ++ block).toUTF8 table (some b) fileId localize = .error fault) ∨
    ∃ c c', compileDocument text.toUTF8 table (some b) fileId localize = .ok c ∧
      compileDocument (text ++ "\n\n" ++ block).toUTF8 table (some b) fileId localize = .ok c' ∧
      c' = { c with digest := c'.digest } ∧ ∀ style, c'.render style = c.render style := by
  have hlist : (text ++ "\n\n" ++ block).toList = text.toList ++ '\n' :: '\n' :: block.toList := by simp
  have hread := hd'
  rw [hlist] at hread
  obtain ⟨v, -, rfl⟩ := (Definitions.read_append_block hd hne hfilled).mp hread
  rw [compileDocument_toUTF8 hd, compileDocument_toUTF8 hd', Definitions.compile_pushVersion hb]
  cases d.compile table (some b) fileId localize with
  | error fault => exact .inl ⟨fault, rfl, rfl⟩
  | ok c =>
    refine .inr ⟨_, _, rfl, rfl, rfl, fun style => ?_⟩
    -- both are compared with the table without a digest, so that no digest is evaluated
    exact (render_digest c _ style).trans (render_digest c _ style).symm

def itemsText : String := "COLUMNS\nint ID\n\nLAYOUT A1\nBUILD 1.0.0.1\n$id$ID<32>\n"

def itemsBlock : String := "LAYOUT B2\nBUILD 1.0.0.1, 1.0.0.2\nID<64>"

def items : Definitions where
  columns := [⟨"ID", .int, none, true, none⟩]
  versions := [⟨["A1"], [⟨1, 0, 0, 1⟩], [], [], [⟨"ID", 32, true, 0, true, false, false, none⟩]⟩]

def itemsAppended : Definitions :=
  items.pushVersion
    ⟨["B2"], [⟨1, 0, 0, 1⟩, ⟨1, 0, 0, 2⟩], [], [], [⟨"ID", 64, true, 0, false, false, false, none⟩]⟩

def itemsCompiled : Compilation where
  table := "Item"
  layoutHash := "A1"
  fileId := 7
  members :=
    [⟨"ID", ⟨.int .w32 true, 0⟩, ⟨"ID", 32, true, 0, true, false, false, none⟩, ⟨"ID", .int, none, true, none⟩⟩]
  digest := none

theorem compileDocument_items : compileDocument itemsText.toUTF8 "Item" (some ⟨1, 0, 0, 1⟩) 7 true =
    .ok { itemsCompiled with digest := some (Sha256.hexDigest itemsText.toUTF8) } := by
  have hread : Definitions.read itemsText.toList = .ok items := by decide +kernel
  have hcompile : items.compile "Item" (some ⟨1, 0, 0, 1⟩) 7 true = .ok itemsCompiled := by decide +kernel
  rw [compileDocument_toUTF8 hread, hcompile]
  rfl

theorem render_items : ∃ a, itemsCompiled.render .padded = .ok a := exists_eq_ok (by decide +kernel)

/-- For the first build the layout stays the old one, though the new one covers it too. -/
theorem compileDocument_append_block_items : Definitions.read itemsText.toList = .ok items ∧
    lines itemsBlock.toList ≠ [] ∧ (∀ l ∈ lines itemsBlock.toList, ∃ c ∈ l, isBlank c = false) ∧
    Definitions.read (itemsText ++ "\n\n" ++ itemsBlock).toList = .ok itemsAppended ∧
    (∃ v ∈ items.versions, v.covers ⟨1, 0, 0, 1⟩ = true) ∧
    ∃ c c', compileDocument itemsText.toUTF8 "Item" (some ⟨1, 0, 0, 1⟩) 7 true = .ok c ∧
      compileDocument (itemsText ++ "\n\n" ++ itemsBlock).toUTF8 "Item" (some ⟨1, 0, 0, 1⟩) 7 true = .ok c' ∧
      c'.layoutHash = "A1" ∧ c'.members = c.members ∧ ∀ style, c'.render style = c.render style := by
  have hd : Definitions.read itemsText.toList = .ok items := by decide +kernel
  have hne : lines itemsBlock.toList ≠ [] := by decide +kernel
  have hfilled : ∀ l ∈ lines itemsBlock.toList, ∃ c ∈ l, isBlank c = false := by decide +kernel
  have hd' : Definitions.read (itemsText ++ "\n\n" ++ itemsBlock).toList = .ok itemsAppended := by decide +kernel
  have hb : ∃ v ∈ items.versions, v.covers ⟨1, 0, 0, 1⟩ = true := by decide +kernel
  have hcompile : items.compile "Item" (some ⟨1, 0, 0, 1⟩) 7 true = .ok itemsCompiled := by decide +kernel
  have hdocument := compileDocument_toUTF8 hd "Item" (some ⟨1, 0, 0, 1⟩) 7 true
  rw [hcompile] at hdocument
  refine ⟨hd, hne, hfilled, hd', hb, ?_⟩
  rcases compileDocument_append_block hd hne hfilled hd' hb "Item" 7 true with
    ⟨fault, herror, -⟩ | ⟨c, c', hc, hc', heq, hrender⟩
  · rw [hdocument] at herror
    cases herror
  · have hold : c.layoutHash = "A1" := by
      rw [hdocument] at hc
      rw [← Except.ok.inj hc]
      rfl
    refine ⟨c, c', hc, hc', ?_, ?_, hrender⟩
    · rw [heq]
      exact hold
    · rw [heq]

end TableLayout
