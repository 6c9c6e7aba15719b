import TableLayout.Proofs.Document.ReadLine

/-!
# The normal form of a document

Whatever a reader takes in can be written again: each step keeps the columns, the closed versions and the version
that is being read writable. The canonical text of what was read is therefore read as the same definitions, for
documents with any characters.
-/

namespace TableLayout

open Text

structure Version.Writable (v : Version) : Prop where
  ne_empty : v ≠ .empty
  hashes : ∀ hash ∈ v.layoutHashes, IsHash hash
  comments : ∀ text ∈ v.comments, IsRemark text
  fields : ∀ f ∈ v.fields, f.Writable

structure Definitions.Writable (d : Definitions) : Prop where
  columns : ∀ c ∈ d.columns, c.Writable
  versions : ∀ v ∈ d.versions, v.Writable

/-! ## One line -/

theorem Version.Writable.getD_add {current : Option Version} (h : ∀ v ∈ current, v.Writable) {said : VersionLine}
    (hsaid : said.Writable) : ((current.getD .empty).add said).Writable := by
  have hparts : (∀ hash ∈ (current.getD .empty).layoutHashes, IsHash hash) ∧
      (∀ text ∈ (current.getD .empty).comments, IsRemark text) ∧
      ∀ f ∈ (current.getD .empty).fields, f.Writable := by
    cases current with
    | none => exact ⟨by simp [Version.empty], by simp [Version.empty], by simp [Version.empty]⟩
    | some v => exact ⟨(h v rfl).hashes, (h v rfl).comments, (h v rfl).fields⟩
  obtain ⟨hhashes, hcomments, hfields⟩ := hparts
  generalize current.getD .empty = v at *
  cases said with
  | layout hashes =>
    refine ⟨fun e => ?_, List.forall_mem_append.mpr ⟨hhashes, hsaid.2⟩, hcomments, hfields⟩
    have := congrArg Version.layoutHashes e
    exact hsaid.1 (List.append_eq_nil_iff.mp this).2
  | builds builds ranges =>
    refine ⟨fun e => ?_, hhashes, hcomments, hfields⟩
    have hb := congrArg Version.builds e
    have hr := congrArg Version.ranges e
    rcases hsaid with hne | hne
    · exact hne (List.append_eq_nil_iff.mp hb).2
    · exact hne (List.append_eq_nil_iff.mp hr).2
  | comment text =>
    refine ⟨fun e => ?_, hhashes, List.forall_mem_append.mpr ⟨hcomments, List.forall_mem_singleton.mpr hsaid⟩, hfields⟩
    have := congrArg Version.comments e
    exact absurd (List.append_eq_nil_iff.mp this).2 (List.cons_ne_nil _ _)
  | field f =>
    refine ⟨fun e => ?_, hhashes, hcomments, List.forall_mem_append.mpr ⟨hfields, List.forall_mem_singleton.mpr hsaid⟩⟩
    have := congrArg Version.fields e
    exact absurd (List.append_eq_nil_iff.mp this).2 (List.cons_ne_nil _ _)

namespace Definitions.Writable
variable {d : Definitions} (h : d.Writable)
include h

theorem pushColumn {d' : Definitions} {c : Column} (hc : c.Writable) (hd' : d.pushColumn c = .ok d') :
    d'.Writable := by
  obtain ⟨-, rfl⟩ := Reader.pushColumn_eq_ok.mp hd'
  exact {
    columns := List.forall_mem_append.mpr ⟨h.columns, List.forall_mem_singleton.mpr hc⟩
    versions := h.versions }

theorem close {current : Option Version} (hv : ∀ v ∈ current, v.Writable) : (Reader.close d current).Writable := by
  cases current with
  | none => exact h
  | some v =>
    exact {
      columns := h.columns
      versions := List.forall_mem_append.mpr ⟨h.versions, List.forall_mem_singleton.mpr (hv v rfl)⟩ }

end Definitions.Writable

/-! ## Runs -/

namespace Reader

def Writable : Reader → Prop
  | .start => True
  | .columns d => d.Writable
  | .versions d current => d.Writable ∧ ∀ v ∈ current, v.Writable

variable {r r' : Reader}

theorem Writable.step {line : List Char} (h : r.Writable) (hline : '\n' ∉ line) (hs : r.step line = .ok r') :
    r'.Writable := by
  cases r with
  | start =>
    simp only [Reader.step, readHeading] at hs
    split at hs
    · cases hs
      trivial
    · split at hs
      · cases hs
        exact ⟨by simp [Definitions.empty, Definitions.ofVersions], by simp [Definitions.empty, Definitions.ofVersions]⟩
      · cases hs
  | columns d =>
    simp only [Reader.step, readColumn] at hs
    split at hs
    · cases hs
      exact ⟨h, by simp⟩
    · obtain ⟨c, hc, hs⟩ := bind_eq_ok.mp hs
      split at hs
      · next d' hd' =>
        cases hs
        exact Definitions.Writable.pushColumn h (Column.writable_of_read hc hline) hd'
      · cases hs
  | versions d current =>
    simp only [Reader.step, readVersionLine] at hs
    split at hs
    · cases hs
      exact ⟨h.1.close h.2, by simp⟩
    · obtain ⟨said, hsaid, hs⟩ := bind_eq_ok.mp hs
      cases hs
      refine ⟨h.1, fun v hv => ?_⟩
      cases hv
      exact .getD_add h.2 (VersionLine.writable_of_read hsaid hline)

theorem Writable.run {ls : List (List Char)} {n : Nat} (h : r.Writable) (hls : ∀ l ∈ ls, '\n' ∉ l)
    (hr : r.run n ls = .ok r') : r'.Writable := by
  induction ls generalizing n r with
  | nil =>
    cases hr
    exact h
  | cons line ls ih =>
    obtain ⟨r₁, hs, hr⟩ := run_cons_eq_ok.mp hr
    have hline : '\n' ∉ trimEnd line := by
      intro hmem
      exact hls line List.mem_cons_self ((List.rdropWhile_prefix isBlank line).subset hmem)
    exact ih (h.step hline hs) (fun l hl => hls l (List.mem_cons_of_mem _ hl)) hr

theorem Writable.finish {d : Definitions} (h : r.Writable) (hr : r.finish = .ok d) : d.Writable := by
  cases r with
  | start => cases hr
  | columns d =>
    cases hr
    exact h
  | versions d current =>
    cases hr
    exact h.1.close h.2

end Reader

/-! ## The canonical document -/

theorem Definitions.writable_of_read {text : List Char} {d : Definitions} (h : read text = .ok d) :
    d.Writable := by
  obtain ⟨r, hr, hfinish⟩ := bind_eq_ok.mp h
  have hstart : Reader.start.Writable := trivial
  exact (hstart.run (fun l hl => newline_not_mem_lines hl) hr).finish hfinish

theorem Version.Writable.isSaidBy_lines {v : Version} (h : v.Writable) :
    v.IsSaidBy ((v.lines Field.canonicalText).map String.toList) :=
  Version.isSaidBy_lines h.ne_empty (fun hash hhash => (h.hashes hash hhash).item)
    (fun text htext => (h.comments text htext).trimmed)
    fun f hf => VersionLine.read_canonicalText (h.fields f hf).separable

/-- The canonical text of a document that is accepted is read as the same definitions, whether or not a newline
ends its last line. -/
theorem Definitions.read_canonicalDocument {text : List Char} {d : Definitions} (h : read text = .ok d) :
    read d.canonicalText.toList = .ok d ∧
      read ("\n".intercalate (d.documentLines Field.canonicalText)).toList = .ok d := by
  have hd := writable_of_read h
  have hcolumns : ∀ c ∈ d.columns, c.Separable := fun c hc => (hd.columns c hc).separable
  have hversions : ∀ v ∈ d.versions, v.IsSaidBy ((v.lines Field.canonicalText).map String.toList) :=
    fun v hv => (hd.versions v hv).isSaidBy_lines
  have hnewline : ∀ l ∈ d.documentLines Field.canonicalText, '\n' ∉ l.toList := by
    refine newline_not_mem_documentLines (fun c hc => (hd.columns c hc).one_line) fun v hv => ?_
    have hv := hd.versions v hv
    exact Version.newline_not_mem_lines (fun hash hhash => (hv.hashes hash hhash).one_line) hv.comments
      fun f hf => (hv.fields f hf).one_line
  have hlast := getLast?_documentLines hcolumns hversions
  constructor
  · exact read_of_documentLines (lines_unlines hnewline) hcolumns hversions
  · exact read_of_documentLines (lines_joined hnewline hlast) hcolumns hversions

def oddText : String :=
  "\r\nCOLUMNS\t\n<Map::ID::x> a b??\nint\t  /$x/ //\n\n \nLAYOUT A 1,,B//2 ,\n LAYOUT<32>\n" ++
    "$ id , x,relation$ $a?b <u0>[+02] // c // d\nBUILD 1.2.3.4-1.2.3.04, +1.2.3.4\nCOMMENT x\ry\r\nCOMMENT"

def odd : Definitions where
  columns :=
    [⟨"a b?", .other "", some ⟨"Map", "ID::x"⟩, false, none⟩, ⟨"/$x/", .other "int\t", none, true, some ""⟩]
  versions :=
    [⟨["A 1", "B//2"], [⟨1, 2, 3, 4⟩], [⟨⟨1, 2, 3, 4⟩, ⟨1, 2, 3, 4⟩⟩], ["x\ry", ""],
      [⟨"LAYOUT", 32, true, 0, false, false, false, none⟩,
       ⟨"$a?b", 0, false, 2, true, true, false, some "c // d"⟩]⟩]

theorem read_canonicalDocument_odd : Definitions.read oddText.toList = .ok odd ∧
    odd.documentLines Field.canonicalText =
      ["COLUMNS", "<Map::ID::x> a b??", "int\t /$x/ // ",
       "", "LAYOUT A 1, B//2", "BUILD 1.2.3.4, 1.2.3.4-1.2.3.4", "COMMENT x\ry", "COMMENT ",
       "$$LAYOUT<32>", "$id,relation$$a?b[2] // c // d"] ∧
    Definitions.read odd.canonicalText.toList = .ok odd := by
  have h : Definitions.read oddText.toList = .ok odd := by decide +kernel
  exact ⟨h, by decide +kernel, (Definitions.read_canonicalDocument h).1⟩

end TableLayout
