import Mathlib.Tactic.MkIffOfInductiveProp
import TableLayout.Proofs.Document.ReaderRun

/-!
# Documents are read back

Definitions whose names hold none of the separators are what their document is read as. A document of any
definitions is read back when each of its lines is.
-/

namespace TableLayout

open Text

/-! ## Versions -/

namespace Version

theorem foldl_comments (texts : List String) (v : Version) :
    (texts.map VersionLine.comment).foldl add v = { v with comments := v.comments ++ texts } := by
  induction texts generalizing v with
  | nil => simp
  | cons text texts ih => simp [add, ih]

theorem foldl_fields (fields : List Field) (v : Version) :
    (fields.map VersionLine.field).foldl add v = { v with fields := v.fields ++ fields } := by
  induction fields generalizing v with
  | nil => simp
  | cons f fields ih => simp [add, ih]

def saidLayout (v : Version) : List VersionLine :=
  if v.layoutHashes.isEmpty then [] else [.layout v.layoutHashes]

def saidBuilds (v : Version) : List VersionLine :=
  if (v.builds.map Build.text ++ v.ranges.map BuildRange.text).isEmpty then []
  else [.builds v.builds v.ranges]

def said (v : Version) : List VersionLine :=
  v.saidLayout ++ v.saidBuilds ++ v.comments.map .comment ++ v.fields.map .field

theorem foldl_saidLayout (v : Version) :
    v.saidLayout.foldl add .empty = { empty with layoutHashes := v.layoutHashes } := by
  unfold saidLayout
  split
  · next h => rw [List.isEmpty_iff.mp h]; rfl
  · rfl

theorem foldl_saidBuilds (v w : Version) : v.saidBuilds.foldl add w =
    { w with builds := w.builds ++ v.builds, ranges := w.ranges ++ v.ranges } := by
  unfold saidBuilds
  split
  · next h =>
    have hb : v.builds = [] := by simp_all
    have hr : v.ranges = [] := by simp_all
    simp [hb, hr]
  · rfl

theorem foldl_said (v : Version) : v.said.foldl add .empty = v := by
  unfold said
  rw [List.foldl_append, List.foldl_append, List.foldl_append, foldl_saidLayout, foldl_saidBuilds,
    foldl_comments, foldl_fields]
  rfl

theorem isSaidBy_lines {field : Field → String} {v : Version} (hne : v ≠ .empty)
    (hhashes : ∀ hash ∈ v.layoutHashes, IsListItem hash.toList)
    (hcomments : ∀ text ∈ v.comments, trim text.toList = text.toList)
    (hfields : ∀ f ∈ v.fields, VersionLine.read (field f).toList = .ok (.field f)) :
    v.IsSaidBy ((v.lines field).map String.toList) := by
  have hread : List.Forall₂ (fun line s => VersionLine.read line = .ok s)
      ((v.lines field).map String.toList) v.said := by
    rw [List.forall₂_map_left_iff]
    unfold lines said layoutLines saidLayout buildLines saidBuilds
    refine List.rel_append (List.rel_append (List.rel_append ?_ ?_) ?_) ?_
    · split
      · exact .nil
      · next h => exact .cons (VersionLine.read_layout (by simpa using h) hhashes) .nil
    · dsimp only
      split
      · exact .nil
      · next h => exact .cons (VersionLine.read_builds (by simpa using h)) .nil
    · rw [List.forall₂_map_left_iff, List.forall₂_map_right_iff, List.forall₂_same]
      exact fun text h => VersionLine.read_comment (hcomments text h)
    · rw [List.forall₂_map_left_iff, List.forall₂_map_right_iff, List.forall₂_same]
      exact hfields
  refine ⟨?_, v.said, hread, foldl_said v⟩
  intro hnil
  rw [hnil, List.forall₂_nil_left_iff] at hread
  have := foldl_said v
  rw [hread] at this
  exact hne this.symm

end Version

/-! ## Documents -/

namespace Definitions

theorem toList_documentLines (field : Field → String) (d : Definitions) :
    (d.documentLines field).map String.toList = "COLUMNS".toList :: (d.columns.map (·.text.toList) ++
      (d.versions.map fun v => (v.lines field).map String.toList).flatMap ([] :: ·)) := by
  simp [documentLines, List.map_flatMap, List.flatMap_map, Function.comp_def]

/-- A document is read back when each of its columns and fields is. -/
theorem read_of_documentLines {field : Field → String} {d : Definitions} {text : List Char}
    (htext : lines text = (d.documentLines field).map String.toList)
    (hcolumns : ∀ c ∈ d.columns, c.Separable)
    (hversions : ∀ v ∈ d.versions, v.IsSaidBy ((v.lines field).map String.toList)) :
    read text = .ok d := by
  let blocks := d.versions.map fun v => (⟨[[]], (v.lines field).map String.toList⟩ : Block)
  have hlines : lines text = "COLUMNS".toList :: (d.columns.map (·.text.toList) ++ blocks.flatMap Block.all) := by
    rw [htext, toList_documentLines, List.flatMap_map, List.flatMap_map]
    rfl
  have hfilled : ∀ l ∈ d.columns.map (·.text.toList), ∃ c ∈ l, isBlank c = false := by
    intro l hl
    obtain ⟨c, hc, rfl⟩ := List.mem_map.mp hl
    exact trimEnd_ne_nil_iff.mp (Column.trimEnd_ne_nil (hcolumns c hc).read_text)
  have hblocks : ∀ b ∈ blocks, b.WellFormed := by
    intro b hb
    obtain ⟨v, hv, rfl⟩ := List.mem_map.mp hb
    exact (hversions v hv).wellFormed_block
  refine (read_iff_of_lines hlines (by decide) hfilled hblocks).mpr ⟨?_, ?_⟩
  · rw [List.forall₂_map_left_iff, List.forall₂_same]
    exact fun c hc => (hcolumns c hc).read_text
  · rw [List.forall₂_map_left_iff, List.forall₂_same]
    exact hversions

end Definitions

theorem lines_unlines {ls : List String} (h : ∀ l ∈ ls, '\n' ∉ l.toList) :
    lines (unlines ls).toList = ls.map String.toList := by
  have e : (unlines ls).toList = (ls.map String.toList).flatMap (· ++ ['\n']) := by
    rw [toList_unlines, List.flatMap_map]
  rw [e]
  exact lines_flatMap (by simpa using h)

theorem lines_joined {ls : List String} (h : ∀ l ∈ ls, '\n' ∉ l.toList)
    (hlast : ∀ l ∈ ls.getLast?, l ≠ "") : lines ("\n".intercalate ls).toList = ls.map String.toList := by
  rw [String.toList_intercalate]
  refine lines_intercalate (by simpa using h) fun l hl => ?_
  rw [List.getLast?_map] at hl
  obtain ⟨line, hline, rfl⟩ := Option.map_eq_some_iff.mp hl
  simpa using hlast line hline

/-! ## Well-formed definitions -/

/-- The characters that end a part of a line. -/
def isMark (c : Char) : Bool :=
  isBlank c || c ∈ ['/', '<', '>', '[', ']', '$', '?', ':', ',']

@[mk_iff]
structure IsWord (s : String) : Prop where
  ne : s ≠ ""
  no_mark : s.toList.any isMark = false

@[mk_iff]
structure IsRemark (s : String) : Prop where
  trimmed : trim s.toList = s.toList
  one_line : '\n' ∉ s.toList

instance (s : String) : Decidable (IsWord s) := decidable_of_iff' _ (isWord_iff s)

instance (s : String) : Decidable (IsRemark s) := decidable_of_iff' _ (isRemark_iff s)

@[mk_iff]
structure Column.WellFormed (c : Column) : Prop where
  name : IsWord c.name
  /-- The type is the one that its token stands for. -/
  type_token : .ofToken c.type.token = c.type
  token : IsWord c.type.token
  key : ∀ key ∈ c.foreign, IsWord key.table ∧ IsWord key.column
  comment : ∀ text ∈ c.comment, IsRemark text

@[mk_iff]
structure Field.WellFormed (f : Field) : Prop where
  name : IsWord f.name
  name_free : f.name ∉ VersionLine.keywords
  comment : ∀ text ∈ f.comment, IsRemark text

@[mk_iff]
structure Version.WellFormed (v : Version) : Prop where
  ne_empty : v ≠ .empty
  hashes : ∀ hash ∈ v.layoutHashes, IsWord hash
  comments : ∀ text ∈ v.comments, IsRemark text
  fields : ∀ f ∈ v.fields, f.WellFormed

@[mk_iff]
structure Definitions.WellFormed (d : Definitions) : Prop where
  columns : ∀ c ∈ d.columns, c.WellFormed
  versions : ∀ v ∈ d.versions, v.WellFormed

instance (c : Column) : Decidable c.WellFormed := decidable_of_iff' _ c.wellFormed_iff

instance (f : Field) : Decidable f.WellFormed := decidable_of_iff' _ f.wellFormed_iff

instance (v : Version) : Decidable v.WellFormed := decidable_of_iff' _ v.wellFormed_iff

instance (d : Definitions) : Decidable d.WellFormed := decidable_of_iff' _ d.wellFormed_iff

theorem isMark_of_isBlank {c : Char} (h : isBlank c = true) : isMark c = true := by
  rw [isMark, h, Bool.true_or]

namespace IsWord
variable {s : String} (h : IsWord s)
include h

theorem not_mem {c : Char} (hc : isMark c = true) : c ∉ s.toList := by
  intro hmem
  have := List.any_eq_false.mp h.no_mark c hmem
  exact this hc

theorem isBlank_eq_false {c : Char} (hc : c ∈ s.toList) : isBlank c = false := by
  by_contra hblank
  exact h.not_mem (isMark_of_isBlank (by simpa using hblank)) hc

theorem trim_eq : trim s.toList = s.toList := trim_of_no_blank fun _ => h.isBlank_eq_false

theorem toList_ne : s.toList ≠ [] := by simpa using h.ne

theorem isListItem : IsListItem s.toList := ⟨h.trim_eq, h.toList_ne, h.not_mem (by decide)⟩

end IsWord

/-! ## Well-formed lines -/

theorem newline_not_mem_commentText {comment : Option String} (h : ∀ text ∈ comment, IsRemark text) :
    '\n' ∉ (commentText comment).toList := by
  cases comment with
  | none => simp [commentText]
  | some text => simp [commentText, (h text rfl).one_line]

theorem newline_not_mem_list {heading : String} (hheading : '\n' ∉ heading.toList) {items : List String}
    (h : ∀ item ∈ items, '\n' ∉ item.toList) : '\n' ∉ (heading ++ ", ".intercalate items).toList := by
  rw [String.toList_append, String.toList_intercalate, List.mem_append]
  rintro (e | e)
  · exact hheading e
  · rcases mem_of_mem_intercalate e with e | ⟨item, hitem, e⟩
    · revert e
      decide
    · obtain ⟨s, hs, rfl⟩ := List.mem_map.mp hitem
      exact h s hs e

namespace Column.WellFormed
variable {c : Column} (h : c.WellFormed)
include h

theorem not_mem_tokenText {a : Char} (ha : isMark a = true) (hkey : a ∉ ['<', ':', '>']) :
    a ∉ c.tokenText.toList := by
  have htoken := h.token.not_mem ha
  cases hf : c.foreign with
  | none => simpa [tokenText, hf] using htoken
  | some key =>
    have htable := (h.key key hf).1.not_mem ha
    have hcolumn := (h.key key hf).2.not_mem ha
    simp only [List.mem_cons, List.not_mem_nil, or_false, not_or] at hkey
    simp [tokenText, hf, ForeignKey.text, htoken, htable, hcolumn, hkey]

theorem not_mem_nameText {a : Char} (ha : isMark a = true) (hguess : a ≠ '?') : a ∉ c.nameText.toList := by
  have hname := h.name.not_mem ha
  unfold nameText
  split
  · simpa using hname
  · simp [hname, hguess]

theorem trim_tokenText : trim c.tokenText.toList = c.tokenText.toList := by
  refine trim_of_no_blank fun a ha => ?_
  by_contra hblank
  have hmark : isMark a = true := isMark_of_isBlank (by simpa using hblank)
  refine h.not_mem_tokenText hmark ?_ ha
  intro hkey
  have all : ['<', ':', '>'].any isBlank = false := by decide
  exact hblank (by simpa using List.any_eq_false.mp all a hkey)

theorem trim_nameText : trim c.nameText.toList = c.nameText.toList := by
  refine trim_of_no_blank fun a ha => ?_
  by_contra hblank
  have hmark : isMark a = true := isMark_of_isBlank (by simpa using hblank)
  refine h.not_mem_nameText hmark ?_ ha
  rintro rfl
  exact hblank (by decide)

theorem separable : c.Separable where
  type_token := h.type_token
  token_start := trimStart_of_trim_eq h.trim_tokenText
  token_ne := by
    have := h.token.ne
    simp [tokenText, this]
  token_word := h.not_mem_tokenText (by decide) (by decide)
  type_word := h.token.not_mem (by decide)
  key_table key hkey := by
    have hcolon : ':' ∉ key.table.toList := (h.key key hkey).1.not_mem (by decide)
    rw [cutAtPair_append_eq_none_iff]
    exact ⟨cutAtPair_eq_none hcolon, rfl, fun e => hcolon (List.mem_of_getLast? e.1)⟩
  name_trimmed := h.trim_nameText
  name_ne := h.name.ne
  name_mark _ e := h.name.not_mem (by decide) (List.mem_of_getLast? e)
  no_comment := by
    have htoken : '/' ∉ c.tokenText.toList := h.not_mem_tokenText (by decide) (by decide)
    have hname : '/' ∉ c.nameText.toList := h.not_mem_nameText (by decide) (by decide)
    exact cutAtPair_eq_none (by simp [htoken, hname])
  comment_trimmed text htext := (h.comment text htext).trimmed

theorem newline_not_mem_text : '\n' ∉ c.text.toList := by
  have htoken : '\n' ∉ c.tokenText.toList := h.not_mem_tokenText (by decide) (by decide)
  have hname : '\n' ∉ c.nameText.toList := h.not_mem_nameText (by decide) (by decide)
  rw [toList_text]
  simp [htoken, hname, newline_not_mem_commentText h.comment]

end Column.WellFormed

namespace Field

section
variable {f : Field} (hname : '\n' ∉ f.name.toList) (hcomment : ∀ text ∈ f.comment, IsRemark text)
include hname hcomment

theorem newline_not_mem_bodyText : '\n' ∉ f.bodyText.toList := by
  have hbrackets : '\n' ∉ f.sizeText.toList ++ f.lengthText.toList := by
    intro hmem
    exact absurd (isBlank_of_mem_brackets hmem).1 (by decide)
  rw [List.mem_append, not_or] at hbrackets
  simp [bodyText, hname, hbrackets.1, hbrackets.2, newline_not_mem_commentText hcomment]

theorem newline_not_mem_canonicalText : '\n' ∉ f.canonicalText.toList := by
  have hmarks : '\n' ∉ f.annotationText.toList := by
    intro hmem
    exact absurd (isBlank_of_mem_annotationText hmem).1 (by decide)
  simp [canonicalText, hmarks, newline_not_mem_bodyText hname hcomment]

end

end Field

namespace Field.WellFormed
variable {f : Field} (h : f.WellFormed)
include h

theorem separable : f.Separable where
  name_trimmed := h.name.trim_eq
  name_ne := h.name.ne
  name_word c hc := by
    by_contra hopen
    have hbracket : c = '<' ∨ c = '[' := by
      rw [Bool.not_eq_false] at hopen
      simpa [isOpening] using hopen
    rcases hbracket with rfl | rfl
    · exact h.name.not_mem (by decide) hc
    · exact h.name.not_mem (by decide) hc
  no_comment := cutAtPair_eq_none (h.name.not_mem (by decide))
  comment_trimmed text htext := (h.comment text htext).trimmed

theorem read_plainText : VersionLine.read f.plainText.toList = .ok (.field f) :=
  VersionLine.read_plainText h.separable (fun _ => h.name.isBlank_eq_false)
    (fun e => h.name.not_mem (by decide) (List.mem_of_head? e)) h.name_free

theorem newline_not_mem_plainText : '\n' ∉ f.plainText.toList := by
  have hname : '\n' ∉ f.name.toList := h.name.not_mem (by decide)
  unfold plainText
  split
  · exact newline_not_mem_bodyText hname h.comment
  · exact newline_not_mem_canonicalText hname h.comment

end Field.WellFormed

theorem Version.newline_not_mem_lines {field : Field → String} {v : Version}
    (hhashes : ∀ hash ∈ v.layoutHashes, '\n' ∉ hash.toList) (hcomments : ∀ text ∈ v.comments, IsRemark text)
    (hfields : ∀ f ∈ v.fields, '\n' ∉ (field f).toList) : ∀ l ∈ v.lines field, '\n' ∉ l.toList := by
  intro l hl
  unfold lines at hl
  simp only [List.mem_append] at hl
  rcases hl with ((hl | hl) | hl) | hl
  · unfold layoutLines at hl
    split at hl
    · cases hl
    · rw [List.mem_singleton.mp hl]
      exact newline_not_mem_list (by decide) hhashes
  · unfold buildLines at hl
    dsimp only at hl
    split at hl
    · cases hl
    · rw [List.mem_singleton.mp hl]
      refine newline_not_mem_list (by decide) fun item hitem e => ?_
      have hblank : isBlank '\n' = false := by
        rcases List.mem_append.mp hitem with hitem | hitem
        · obtain ⟨b, -, rfl⟩ := List.mem_map.mp hitem
          exact Build.isBlank_of_mem_text e
        · obtain ⟨r, -, rfl⟩ := List.mem_map.mp hitem
          exact BuildRange.isBlank_of_mem_text e
      revert hblank
      decide
  · obtain ⟨text, htext, rfl⟩ := List.mem_map.mp hl
    simp [(hcomments text htext).one_line]
  · obtain ⟨f, hf, rfl⟩ := List.mem_map.mp hl
    exact hfields f hf

namespace Version.WellFormed
variable {v : Version} (h : v.WellFormed)
include h

theorem isSaidBy_lines : v.IsSaidBy ((v.lines Field.plainText).map String.toList) :=
  Version.isSaidBy_lines h.ne_empty (fun hash hhash => (h.hashes hash hhash).isListItem)
    (fun text htext => (h.comments text htext).trimmed) (fun f hf => (h.fields f hf).read_plainText)

theorem newline_not_mem_plainLines : ∀ l ∈ v.lines Field.plainText, '\n' ∉ l.toList :=
  Version.newline_not_mem_lines (fun hash hhash => (h.hashes hash hhash).not_mem (by decide)) h.comments
    fun f hf => (h.fields f hf).newline_not_mem_plainText

end Version.WellFormed

/-! ## The document of well-formed definitions -/

namespace Definitions

section
variable {field : Field → String} {d : Definitions}

theorem newline_not_mem_documentLines (hcolumns : ∀ c ∈ d.columns, '\n' ∉ c.text.toList)
    (hversions : ∀ v ∈ d.versions, ∀ l ∈ v.lines field, '\n' ∉ l.toList) :
    ∀ l ∈ d.documentLines field, '\n' ∉ l.toList := by
  intro l hl
  simp only [documentLines, List.cons_append, List.mem_cons, List.mem_append] at hl
  rcases hl with rfl | hl | hl
  · decide
  · obtain ⟨c, hc, rfl⟩ := List.mem_map.mp hl
    exact hcolumns c hc
  · obtain ⟨v, hv, hl⟩ := List.mem_flatMap.mp hl
    rcases List.mem_cons.mp hl with rfl | hl
    · decide
    · exact hversions v hv l hl

theorem getLast?_documentLines (hcolumns : ∀ c ∈ d.columns, c.Separable)
    (hversions : ∀ v ∈ d.versions, v.IsSaidBy ((v.lines field).map String.toList)) :
    ∀ l ∈ (d.documentLines field).getLast?, l ≠ "" := by
  intro l hl
  rcases List.eq_nil_or_concat d.versions with hv | ⟨vs, v, hv⟩
  · have hmem := List.mem_of_getLast? hl
    simp only [documentLines, hv, List.flatMap_nil, List.append_nil, List.mem_cons] at hmem
    rcases hmem with rfl | hmem
    · decide
    · obtain ⟨c, hc, rfl⟩ := List.mem_map.mp hmem
      rintro e
      have := (hcolumns c hc).read_text
      rw [e] at this
      cases this
  · rw [List.concat_eq_append] at hv
    have hsaid := hversions v (hv ▸ by simp)
    have hne : v.lines field ≠ [] := by simpa using hsaid.1
    have e : d.documentLines field = ("COLUMNS" :: d.columns.map Column.text ++
        vs.flatMap (fun v => "" :: v.lines field) ++ [""]) ++ v.lines field := by
      simp [documentLines, hv]
    rw [e, List.getLast?_append_of_ne_nil _ hne] at hl
    rintro rfl
    exact hsaid.trimEnd_ne_nil [] (List.mem_map.mpr ⟨"", List.mem_of_getLast? hl, rfl⟩) rfl

end

namespace WellFormed
variable {d : Definitions} (h : d.WellFormed)
include h

theorem newline_not_mem_documentLines : ∀ l ∈ d.documentLines Field.plainText, '\n' ∉ l.toList :=
  Definitions.newline_not_mem_documentLines (fun c hc => (h.columns c hc).newline_not_mem_text)
    fun v hv => (h.versions v hv).newline_not_mem_plainLines

theorem getLast?_documentLines : ∀ l ∈ (d.documentLines Field.plainText).getLast?, l ≠ "" :=
  Definitions.getLast?_documentLines (fun c hc => (h.columns c hc).separable)
    fun v hv => (h.versions v hv).isSaidBy_lines

end WellFormed

end Definitions

/-- The document of well-formed definitions is read as them, whether or not a newline ends its last line. -/
theorem Definitions.read_plainDocument {d : Definitions} (h : d.WellFormed) :
    read d.plainText.toList = .ok d ∧
      read ("\n".intercalate (d.documentLines Field.plainText)).toList = .ok d := by
  have hnewline := h.newline_not_mem_documentLines
  have of_lines : ∀ text, lines text = (d.documentLines Field.plainText).map String.toList →
      read text = .ok d := fun text htext =>
    read_of_documentLines htext (fun c hc => (h.columns c hc).separable)
      (fun v hv => (h.versions v hv).isSaidBy_lines)
  exact ⟨of_lines _ (lines_unlines hnewline),
    of_lines _ (lines_joined hnewline h.getLast?_documentLines)⟩

def creatures : Definitions where
  columns :=
    [⟨"ID", .int, none, true, none⟩, ⟨"Model", .int, some ⟨"Model", "ID"⟩, false, some "a guess // no check"⟩,
     ⟨"Scale", .float, none, true, some ""⟩]
  versions :=
    [⟨["A1", "B2"], [⟨1, 12, 1, 5875⟩], [⟨⟨2, 0, 0, 6080⟩, ⟨2, 4, 3, 8606⟩⟩], ["first clients"],
      [⟨"ID", 32, true, 0, true, false, true, none⟩, ⟨"Model", 16, false, 2, false, true, false, some "BUILD"⟩,
       ⟨"Scale", 0, false, 0, false, false, false, none⟩]⟩,
     ⟨[], [], [⟨⟨3, 0, 1, 8303⟩, ⟨4294967295, 0, 0, 0⟩⟩], [], []⟩]

theorem read_plainDocument_creatures : creatures.WellFormed ∧
    creatures.documentLines Field.plainText =
      ["COLUMNS", "int ID", "int<Model::ID> Model? // a guess // no check", "float Scale // ",
       "", "LAYOUT A1, B2", "BUILD 1.12.1.5875, 2.0.0.6080-2.4.3.8606", "COMMENT first clients",
       "$id,noninline$ID<32>", "$relation$Model<u16>[2] // BUILD", "Scale",
       "", "BUILD 3.0.1.8303-4294967295.0.0.0"] ∧
    Definitions.read creatures.plainText.toList = .ok creatures := by
  have h : creatures.WellFormed := by decide +kernel
  exact ⟨h, by decide +kernel, (Definitions.read_plainDocument h).1⟩

end TableLayout
