import Mathlib.Data.String.Basic
import TableLayout.Proofs.Artifact.Styles

/-!
# Where the columns of the padded style start

Each width grows along the members until every item fits, counted in bytes, and no item has more characters than
bytes. Names therefore start in one column. A name is written with a semicolon: one that is just as long as its column
is wide pushes the comment behind it one character further than a shorter one does.
-/

namespace TableLayout

open Text

theorem length_le_utf8ByteSize (s : String) : s.length ≤ s.utf8ByteSize := by
  have hlist : ∀ cs : List Char, cs.length ≤ String.utf8Len cs := by
    intro cs
    induction cs with
    | nil => exact Nat.le_refl 0
    | cons c cs ih =>
      have hc := c.utf8Size_pos
      rw [List.length_cons, String.utf8Len_cons]
      omega
  have h := hlist s.toList
  rwa [← String.utf8ByteSize_ofList, String.ofList_toList, String.length_toList] at h

/-! ## Widths -/

theorem le_growWidth (width : Nat) (item : String) : width ≤ growWidth width item := by
  unfold growWidth
  split <;> omega

theorem size_le_growWidth (width : Nat) (item : String) : item.utf8ByteSize ≤ growWidth width item := by
  unfold growWidth
  split <;> omega

structure Widths.Fits (w : Widths) (m : Member) : Prop where
  type : m.type.text.length ≤ w.type
  name : m.name.length ≤ w.name

namespace Widths
variable {w : Widths} {m : Member}

theorem fits_grow (w : Widths) (m : Member) : (w.grow m).Fits m where
  type := (length_le_utf8ByteSize _).trans (size_le_growWidth w.type _)
  name := (length_le_utf8ByteSize _).trans (size_le_growWidth w.name _)

theorem Fits.grow (h : w.Fits m) (m' : Member) : (w.grow m').Fits m where
  type := h.type.trans (le_growWidth w.type _)
  name := h.name.trans (le_growWidth w.name _)

/-- What fits once does so to the end, and each member fits when it is its turn. -/
theorem fits_foldl {ms : List Member} (h : w.Fits m ∨ m ∈ ms) : (ms.foldl grow w).Fits m := by
  induction ms generalizing w with
  | nil =>
    rcases h with h | h
    · exact h
    · cases h
  | cons first ms ih =>
    rw [List.foldl_cons]
    apply ih
    rcases h with h | h
    · exact .inl (h.grow first)
    · rcases List.mem_cons.mp h with rfl | h
      · exact .inl (fits_grow w m)
      · exact .inr h

end Widths

/-! ## Columns -/

/-- The line declares the member, with its name from the given column on. -/
def ShowsName (column : Nat) (m : Member) (line : String) : Prop :=
  ∃ gap rest, line = indent 1 ++ m.type.text ++ spaces gap ++ m.name ++ ";" ++ rest ∧
    (indent 1 ++ m.type.text ++ spaces gap).length = column

def ShowsComment (column : Nat) (m : Member) (line : String) : Prop :=
  ∃ front, line = front ++ "// " ++ m.comment ∧ front.length = column

@[simp]
theorem length_spaces (n : Nat) : (spaces n).length = n := by
  simp [spaces]

@[simp]
theorem length_indent (depth : Nat) : (indent depth).length = 4 * depth := length_spaces _

theorem ShowsComment.unique {column column' : Nat} {m : Member} {line : String} (h : ShowsComment column m line)
    (h' : ShowsComment column' m line) : column = column' := by
  obtain ⟨front, hline, rfl⟩ := h
  obtain ⟨front', hline', rfl⟩ := h'
  have hlength := congrArg String.length (hline.symm.trans hline')
  simpa using hlength

def Widths.nameColumn (w : Widths) : Nat := w.type + 5

/-- Where the comment of a member starts: behind the name column, or behind a semicolon that stands out of it. -/
def Widths.commentColumn (w : Widths) (m : Member) : Nat := w.nameColumn + max w.name (m.name.length + 1)

section
variable {w : Widths} {m : Member} (h : w.Fits m)
include h

theorem showsName_memberLine : ShowsName w.nameColumn m (memberLine .padded w m) := by
  rw [memberLine_eq]
  refine ⟨w.type - m.type.text.length + 1, String.ofList (trimEnd
    (spaces (w.name - (m.name ++ ";").length) ++ StructStyle.padded.commentText m.comment).toList), ?_, ?_⟩
  · simp only [← spaces_succ, String.append_assoc]
  · have hfits := h.type
    simp only [String.length_append, length_spaces, length_indent, Widths.nameColumn]
    omega

theorem showsComment_memberLine (hc : m.comment ≠ "") :
    ShowsComment (w.commentColumn m) m (memberLine .padded w m) := by
  have hcomment : StructStyle.padded.commentText m.comment = "// " ++ m.comment := if_neg hc
  rw [memberLine_commented hc, hcomment]
  refine ⟨indent 1 ++ m.type.text ++ spaces (w.type - m.type.text.length) ++ " " ++ m.name ++ ";" ++
    spaces (w.name - (m.name ++ ";").length), ?_, ?_⟩
  · exact String.append_assoc.symm
  · have hfits := h.type
    have hsemicolon : ";".length = 1 := rfl
    have hblank : " ".length = 1 := rfl
    simp only [String.length_append, length_spaces, length_indent, hsemicolon, hblank, Widths.commentColumn,
      Widths.nameColumn]
    omega

theorem commentColumn_eq :
    w.commentColumn m = if m.name.length = w.name then w.nameColumn + w.name + 1 else w.nameColumn + w.name := by
  have hfits := h.name
  unfold Widths.commentColumn
  split <;> omega

end

section
variable (c : Compilation)

def Compilation.paddedWidths : Widths := StructStyle.padded.widths c.members

def Compilation.Fills (m : Member) : Prop := m.name.length = c.paddedWidths.name

/-- Of all members with a flag the name fills the name column, or of none. -/
def Compilation.FlaggedAlike : Prop :=
  ∀ m ∈ c.members, ∀ m' ∈ c.members, m.comment ≠ "" → m'.comment ≠ "" → (c.Fills m ↔ c.Fills m')

instance (m : Member) : Decidable (c.Fills m) := inferInstanceAs (Decidable (_ = _))

instance : Decidable c.FlaggedAlike := inferInstanceAs (Decidable (∀ m ∈ c.members, _))

theorem Compilation.fits_paddedWidths {m : Member} (h : m ∈ c.members) : c.paddedWidths.Fits m :=
  Widths.fits_foldl (.inr h)

theorem Compilation.comments_aligned_iff : (∃ column, ∀ m ∈ c.members, m.comment ≠ "" →
    ShowsComment column m (memberLine .padded c.paddedWidths m)) ↔ c.FlaggedAlike := by
  have hshows : ∀ m ∈ c.members, m.comment ≠ "" →
      ShowsComment (c.paddedWidths.commentColumn m) m (memberLine .padded c.paddedWidths m) := by
    intro m hm hc
    exact showsComment_memberLine (c.fits_paddedWidths hm) hc
  have hcolumns : ∀ m ∈ c.members, ∀ m' ∈ c.members,
      c.paddedWidths.commentColumn m = c.paddedWidths.commentColumn m' ↔ (c.Fills m ↔ c.Fills m') := by
    intro m hm m' hm'
    rw [commentColumn_eq (c.fits_paddedWidths hm), commentColumn_eq (c.fits_paddedWidths hm')]
    unfold Compilation.Fills
    split <;> split <;> simp_all
  constructor
  · intro ⟨column, hcolumn⟩ m hm m' hm' hc hc'
    rw [← hcolumns m hm m' hm']
    have h := (hshows m hm hc).unique (hcolumn m hm hc)
    have h' := (hshows m' hm' hc').unique (hcolumn m' hm' hc')
    rw [h, h']
  · intro halike
    by_cases hflagged : ∃ m ∈ c.members, m.comment ≠ ""
    · obtain ⟨m, hm, hc⟩ := hflagged
      refine ⟨c.paddedWidths.commentColumn m, ?_⟩
      intro m' hm' hc'
      rw [(hcolumns m hm m' hm').mpr (halike m hm m' hm' hc hc')]
      exact hshows m' hm' hc'
    · exact ⟨0, fun m hm hc => absurd ⟨m, hm, hc⟩ hflagged⟩

end

theorem forall₂_memberLines {R : Member → String → Prop} {style : StructStyle} {w : Widths} {ms : List Member} :
    List.Forall₂ R ms (ms.map (memberLine style w)) ↔ ∀ m ∈ ms, R m (memberLine style w m) := by
  rw [List.forall₂_map_right_iff, List.forall₂_same]

/-- In the padded style all names start in one column. All comments do so exactly when of the flagged members either
all names fill the name column or none. -/
theorem padded_columns {c : Compilation} (h : ∀ m ∈ c.members, '\n' ∉ m.name.toList) : ∃ heading body,
    textLines (c.structureText .padded) = heading ++ "\x7b" :: (body ++ ["\x7d;"]) ∧
    (∃ column, List.Forall₂ (ShowsName column) c.members body) ∧
    ((∃ column, List.Forall₂ (fun m line => m.comment ≠ "" → ShowsComment column m line) c.members body) ↔
      c.FlaggedAlike) := by
  refine ⟨_, _, textLines_structureText c .padded h, ⟨c.paddedWidths.nameColumn, ?_⟩, ?_⟩
  · rw [forall₂_memberLines]
    intro m hm
    exact showsName_memberLine (c.fits_paddedWidths hm)
  · simp only [forall₂_memberLines]
    exact c.comments_aligned_iff

/-- Two flagged members and two others, all of them with room behind their names. -/
theorem padded_columns_spells : (∀ m ∈ spellsCompiled.members, '\n' ∉ m.name.toList) ∧
    spellsCompiled.members.map (·.comment) = ["ID Non-inline", "", "", "Relation Non-inline"] ∧
    ∃ heading body, textLines (spellsCompiled.structureText .padded) = heading ++ "\x7b" :: (body ++ ["\x7d;"]) ∧
      (∃ column, List.Forall₂ (ShowsName column) spellsCompiled.members body) ∧
      ∃ column, List.Forall₂ (fun m line => m.comment ≠ "" → ShowsComment column m line) spellsCompiled.members body := by
  have hnames : ∀ m ∈ spellsCompiled.members, '\n' ∉ m.name.toList := by decide
  have halike : spellsCompiled.FlaggedAlike := by decide +kernel
  obtain ⟨heading, body, hlines, hshows, haligned⟩ := padded_columns hnames
  exact ⟨hnames, by decide +kernel, heading, body, hlines, hshows, haligned.mpr halike⟩

def zones : Definitions where
  columns := [⟨"WorldMapOverlayIndex", .int, none, true, none⟩, ⟨"Parent", .int, none, true, none⟩]
  versions :=
    [⟨["A1"], [], [], [],
      [⟨"WorldMapOverlayIndex", 32, true, 0, true, false, false, none⟩,
       ⟨"Parent", 32, true, 0, false, true, false, none⟩]⟩]

def zonesCompiled : Compilation where
  table := "Zone"
  layoutHash := "A1"
  fileId := 0
  members :=
    [⟨"WorldMapOverlayIndex", ⟨.int .w32 true, 0⟩, ⟨"WorldMapOverlayIndex", 32, true, 0, true, false, false, none⟩,
      ⟨"WorldMapOverlayIndex", .int, none, true, none⟩⟩,
     ⟨"Parent", ⟨.int .w32 true, 0⟩, ⟨"Parent", 32, true, 0, false, true, false, none⟩,
      ⟨"Parent", .int, none, true, none⟩⟩]
  digest := none

/-- The semicolon of a name that fills its column moves the comment behind it. -/
theorem padded_comment_moved :
    Definitions.read ("COLUMNS\nint WorldMapOverlayIndex\nint Parent\n\nLAYOUT A1\n" ++
      "$id$WorldMapOverlayIndex<32>\n$relation$Parent<32>\n").toList = .ok zones ∧
    zones.compile "Zone" none 0 true = .ok zonesCompiled ∧
    (∀ m ∈ zonesCompiled.members, '\n' ∉ m.name.toList) ∧
    textLines (zonesCompiled.structureText .padded) =
      ["struct ZoneEntry", "\x7b", "    int32  WorldMapOverlayIndex;// ID",
        "    int32  Parent;             // Relation", "\x7d;"] ∧
    ¬∃ column, List.Forall₂ (fun m line => m.comment ≠ "" → ShowsComment column m line) zonesCompiled.members
      ["    int32  WorldMapOverlayIndex;// ID", "    int32  Parent;             // Relation"] := by
  refine ⟨by decide +kernel, by decide +kernel, by decide, by decide +kernel, ?_⟩
  have hlines : ["    int32  WorldMapOverlayIndex;// ID", "    int32  Parent;             // Relation"] =
      zonesCompiled.members.map (memberLine .padded zonesCompiled.paddedWidths) := by decide +kernel
  rw [hlines]
  simp only [forall₂_memberLines, zonesCompiled.comments_aligned_iff]
  decide +kernel

end TableLayout
