import TableLayout.Proofs.Document.ReaderRun

/-!
# Documents in parts

A document is accepted exactly when its columns are, and each line of its versions alone. A version is then put
together from what its lines say alone, kind by kind, so that lines of different kinds can change places.
-/

namespace TableLayout

open Text

/-! ## What the lines of a version add up to -/

namespace Version

def concat (vs : List Version) : Version where
  layoutHashes := vs.flatMap (·.layoutHashes)
  builds := vs.flatMap (·.builds)
  ranges := vs.flatMap (·.ranges)
  comments := vs.flatMap (·.comments)
  fields := vs.flatMap (·.fields)

theorem foldl_add (said : List VersionLine) (v : Version) :
    said.foldl add v = concat (v :: said.map (empty.add ·)) := by
  induction said generalizing v with
  | nil => simp [concat]
  | cons s said ih =>
    rw [List.foldl_cons, ih, List.map_cons]
    cases s <;> simp [concat, add, empty]

end Version

inductive LineKind
  | layout
  | build
  | comment
  | field
deriving DecidableEq, Repr

def lineKind (line : List Char) : LineKind :=
  match heading? "LAYOUT".toList line with
  | some _ => .layout
  | none =>
    match heading? "BUILD".toList line with
    | some _ => .build
    | none =>
      match heading? "COMMENT".toList line with
      | some _ => .comment
      | none => .field

namespace VersionLine

def kind : VersionLine → LineKind
  | .layout _ => .layout
  | .builds .. => .build
  | .comment _ => .comment
  | .field _ => .field

theorem kind_of_readLayout {rest : List Char} {said : VersionLine} (h : readLayout rest = .ok said) :
    said.kind = .layout := by
  unfold readLayout at h
  split at h
  · cases h
  · cases h
    rfl

theorem kind_of_readBuildLine {rest : List Char} {said : VersionLine} (h : readBuildLine rest = .ok said) :
    said.kind = .build := by
  unfold readBuildLine at h
  split at h
  · cases h
  · split at h
    · cases h
      rfl
    · cases h

theorem kind_of_read {line : List Char} {said : VersionLine} (h : read line = .ok said) :
    said.kind = lineKind line := by
  unfold read at h
  unfold lineKind
  cases hl : heading? "LAYOUT".toList line with
  | some rest =>
    rw [hl] at h
    exact kind_of_readLayout h
  | none =>
    rw [hl] at h
    cases hb : heading? "BUILD".toList line with
    | some rest =>
      rw [hb] at h
      exact kind_of_readBuildLine h
    | none =>
      rw [hb] at h
      cases hc : heading? "COMMENT".toList line with
      | some rest =>
        rw [hc] at h
        cases h
        rfl
      | none =>
        rw [hc] at h
        obtain ⟨f, -, rfl⟩ := map_eq_ok.mp h
        rfl

end VersionLine

/-! ## Documents -/

/-- A document by its lines: the heading, the columns, and the versions with the empty lines before them. -/
structure Outline where
  heading : List Char
  columns : List (List Char)
  blocks : List Block

namespace Outline

def lines (o : Outline) : List (List Char) := o.heading :: (o.columns ++ o.blocks.flatMap Block.all)

def text (o : Outline) (ended : Bool) : List Char :=
  if ended then o.lines.flatMap (· ++ ['\n']) else ['\n'].intercalate o.lines

def columnsPart (o : Outline) : Outline := { o with blocks := [] }

/-- The document of a single version line: `COLUMNS`, an empty line and the line. -/
def ofLine (line : List Char) : Outline := ⟨"COLUMNS".toList, [], [⟨[[]], [line]⟩]⟩

theorem columns_ofLine (line : List Char) : (ofLine line).columns = [] := rfl

theorem blocks_ofLine (line : List Char) : (ofLine line).blocks = [⟨[[]], [line]⟩] := rfl

theorem lines_ofLine (line : List Char) : (ofLine line).lines = ["COLUMNS".toList, [], line] := rfl

@[mk_iff]
structure WellFormed (o : Outline) : Prop where
  heading_eq : trimEnd o.heading = "COLUMNS".toList
  columns_filled : ∀ l ∈ o.columns, ∃ c ∈ l, isBlank c = false
  blocks : ∀ b ∈ o.blocks, b.WellFormed
  one_line : ∀ l ∈ o.lines, '\n' ∉ l

instance (o : Outline) : Decidable o.WellFormed := decidable_of_iff' _ o.wellFormed_iff

namespace WellFormed
variable {o : Outline} (h : o.WellFormed)
include h

theorem heading_ne : o.heading ≠ [] := by
  intro e
  have := h.heading_eq
  rw [e] at this
  cases this

theorem getLast?_lines : ∀ l ∈ o.lines.getLast?, l ≠ [] := by
  intro l hl
  rcases List.eq_nil_or_concat o.blocks with hb | ⟨bs, b, hb⟩
  · have hmem := List.mem_of_getLast? hl
    simp only [lines, hb, List.flatMap_nil, List.append_nil, List.mem_cons] at hmem
    rcases hmem with rfl | hmem
    · exact h.heading_ne
    · obtain ⟨c, hc, -⟩ := h.columns_filled l hmem
      exact List.ne_nil_of_mem hc
  · rw [List.concat_eq_append] at hb
    have hwf := h.blocks b (hb ▸ by simp)
    have e : o.lines = (o.heading :: (o.columns ++ (bs.flatMap Block.all ++ b.gap))) ++ b.lines := by
      simp [lines, hb, Block.all]
    rw [e, List.getLast?_append_of_ne_nil _ hwf.lines_ne] at hl
    obtain ⟨c, hc, -⟩ := hwf.lines_filled l (List.mem_of_getLast? hl)
    exact List.ne_nil_of_mem hc

theorem lines_text (ended : Bool) : Text.lines (o.text ended) = o.lines := by
  cases ended with
  | true => exact lines_flatMap h.one_line
  | false => exact lines_intercalate h.one_line h.getLast?_lines

theorem read_text_iff (ended : Bool) {d : Definitions} : Definitions.read (o.text ended) = .ok d ↔
    List.Forall₂ (fun line c => Column.read line = .ok c) o.columns d.columns ∧
      List.Forall₂ (fun b v => v.IsSaidBy b.lines) o.blocks d.versions :=
  Definitions.read_iff_of_lines (h.lines_text ended) h.heading_eq h.columns_filled h.blocks

theorem columnsPart : o.columnsPart.WellFormed where
  heading_eq := h.heading_eq
  columns_filled := h.columns_filled
  blocks b hb := by cases hb
  one_line l hl := by
    refine h.one_line l ?_
    simp only [lines, Outline.columnsPart, List.flatMap_nil, List.append_nil] at hl
    exact List.mem_cons.mpr ((List.mem_cons.mp hl).imp_right fun hl => List.mem_append_left _ hl)

theorem one_line_block {b : Block} (hb : b ∈ o.blocks) {l : List Char} (hl : l ∈ b.lines) : '\n' ∉ l := by
  refine h.one_line l (List.mem_cons_of_mem _ (List.mem_append_right _ ?_))
  exact List.mem_flatMap.mpr ⟨b, hb, List.mem_append_right _ hl⟩

theorem ofLine {b : Block} (hb : b ∈ o.blocks) {l : List Char} (hl : l ∈ b.lines) :
    (Outline.ofLine l).WellFormed where
  heading_eq := show trimEnd "COLUMNS".toList = "COLUMNS".toList by decide
  columns_filled l hl := by cases hl
  blocks b' hb' := by
    rw [List.mem_singleton.mp hb']
    exact {
      gap_ne := List.cons_ne_nil _ _
      gap_blank := by simp
      lines_ne := List.cons_ne_nil _ _
      lines_filled := by simpa using (h.blocks b hb).lines_filled l hl }
  one_line l' hl' := by
    have hone := h.one_line_block hb hl
    rw [lines_ofLine] at hl'
    simp only [List.mem_cons, List.not_mem_nil, or_false] at hl'
    rcases hl' with rfl | rfl | rfl
    · decide
    · decide
    · exact hone

end WellFormed

end Outline

/-! ## Lines alone -/

theorem Version.isSaidBy_singleton {v : Version} {line : List Char} :
    v.IsSaidBy [line] ↔ ∃ s, VersionLine.read line = .ok s ∧ v = Version.empty.add s := by
  unfold IsSaidBy
  simp only [ne_eq, List.cons_ne_nil, not_false_eq_true, true_and, List.forall₂_cons_left_iff,
    List.forall₂_nil_left_iff]
  constructor
  · rintro ⟨said, ⟨s, rest, hs, rfl, rfl⟩, rfl⟩
    exact ⟨s, hs, rfl⟩
  · rintro ⟨s, hs, rfl⟩
    exact ⟨[s], ⟨s, [], hs, rfl, rfl⟩, rfl⟩

theorem Version.exists_isSaidBy_iff {lines : List (List Char)} (hne : lines ≠ []) :
    (∃ v : Version, v.IsSaidBy lines) ↔ ∀ l ∈ lines, ∃ s, VersionLine.read l = .ok s := by
  rw [← exists_forall₂_iff (R := fun l s => VersionLine.read l = .ok s)]
  constructor
  · rintro ⟨v, -, said, hsaid, -⟩
    exact ⟨said, hsaid⟩
  · rintro ⟨said, hsaid⟩
    exact ⟨_, hne, said, hsaid, rfl⟩

/-- The versions of a document, none where it is refused. -/
def Definitions.versionsOf (text : List Char) : List Version :=
  match read text with
  | .ok d => d.versions
  | .error _ => []

namespace Outline

def alone (ended : Bool) (line : List Char) : List Version := Definitions.versionsOf ((ofLine line).text ended)

section
variable {line : List Char} (h : (ofLine line).WellFormed) (ended : Bool)
include h

theorem read_ofLine_iff {d : Definitions} : Definitions.read ((ofLine line).text ended) = .ok d ↔
    ∃ s, VersionLine.read line = .ok s ∧ d = .ofVersions [Version.empty.add s] := by
  rw [h.read_text_iff, columns_ofLine, blocks_ofLine]
  simp only [List.forall₂_nil_left_iff, List.forall₂_cons_left_iff, Version.isSaidBy_singleton]
  constructor
  · rintro ⟨hcolumns, v, vs, ⟨s, hs, rfl⟩, rfl, hversions⟩
    exact ⟨s, hs, Definitions.ext hcolumns hversions⟩
  · rintro ⟨s, hs, rfl⟩
    exact ⟨rfl, _, [], ⟨s, hs, rfl⟩, rfl, rfl⟩

theorem alone_of_read {s : VersionLine} (hs : VersionLine.read line = .ok s) :
    alone ended line = [Version.empty.add s] := by
  unfold alone Definitions.versionsOf
  rw [(read_ofLine_iff h ended).mpr ⟨s, hs, rfl⟩]
  rfl

end

theorem eq_concat_of_isSaidBy {v : Version} {lines : List (List Char)} (h : v.IsSaidBy lines)
    (hlines : ∀ l ∈ lines, (ofLine l).WellFormed) (ended : Bool) :
    v = Version.concat (lines.flatMap (alone ended)) := by
  obtain ⟨-, said, hsaid, rfl⟩ := h
  have parts : lines.flatMap (alone ended) = said.map (Version.empty.add ·) := by
    induction hsaid with
    | nil => rfl
    | cons hs _ ih =>
      rw [List.flatMap_cons, alone_of_read (hlines _ List.mem_cons_self) ended hs,
        ih fun l hl => hlines l (List.mem_cons_of_mem _ hl)]
      rfl
  rw [parts, Version.foldl_add]
  rfl

/-! ## Lines of different kinds -/

theorem flatMap_filter_eq {α β : Type} {g : α → List β} {p : α → Bool} {l : List α}
    (h : ∀ a ∈ l, p a = false → g a = []) : (l.filter p).flatMap g = l.flatMap g := by
  induction l with
  | nil => rfl
  | cons a l ih =>
    have hrest := ih fun b hb => h b (List.mem_cons_of_mem _ hb)
    rw [List.filter_cons, List.flatMap_cons]
    by_cases hp : p a = true
    · rw [if_pos hp, List.flatMap_cons, hrest]
    · rw [if_neg hp, hrest, h a List.mem_cons_self (by simpa using hp), List.nil_append]

theorem alone_of_kind {β : Type} {line : List Char} (h : (ofLine line).WellFormed) (ended : Bool)
    {kind : LineKind} {g : Version → List β} (hg : ∀ s : VersionLine, s.kind ≠ kind → g (Version.empty.add s) = [])
    (hk : lineKind line ≠ kind) : (alone ended line).flatMap g = [] := by
  cases hr : Definitions.read ((ofLine line).text ended) with
  | error f => simp [alone, Definitions.versionsOf, hr]
  | ok d =>
    obtain ⟨s, hs, -⟩ := (read_ofLine_iff h ended).mp hr
    have hkind : s.kind ≠ kind := by rwa [VersionLine.kind_of_read hs]
    simp [alone_of_read h ended hs, hg s hkind]

/-- The order of lines of different kinds does not count. -/
theorem concat_alone_congr {ls ls' : List (List Char)} (h : ∀ l ∈ ls, (ofLine l).WellFormed)
    (h' : ∀ l ∈ ls', (ofLine l).WellFormed) (ended : Bool)
    (hkind : ∀ kind, ls.filter (lineKind · = kind) = ls'.filter (lineKind · = kind)) :
    Version.concat (ls.flatMap (alone ended)) = Version.concat (ls'.flatMap (alone ended)) := by
  have lists : ∀ {β : Type} (g : Version → List β) (kind : LineKind),
      (∀ s : VersionLine, s.kind ≠ kind → g (Version.empty.add s) = []) →
        (ls.flatMap (alone ended)).flatMap g = (ls'.flatMap (alone ended)).flatMap g := by
    intro β g kind hg
    have only : ∀ ls : List (List Char), (∀ l ∈ ls, (ofLine l).WellFormed) →
        (ls.filter (lineKind · = kind)).flatMap (fun l => (alone ended l).flatMap g) =
          ls.flatMap fun l => (alone ended l).flatMap g := fun ls h =>
      flatMap_filter_eq fun l hl hk => alone_of_kind (h l hl) ended hg (by simpa using hk)
    rw [List.flatMap_assoc, List.flatMap_assoc, ← only ls h, ← only ls' h', hkind]
  unfold Version.concat
  rw [lists (·.layoutHashes) .layout, lists (·.builds) .build, lists (·.ranges) .build,
    lists (·.comments) .comment, lists (·.fields) .field]
  all_goals
    intro s hs
    cases s
    all_goals first | rfl | exact absurd rfl hs

theorem isSaidBy_of_kinds {v : Version} {ls ls' : List (List Char)} (hv : v.IsSaidBy ls) (hne : ls' ≠ [])
    (h : ∀ l ∈ ls, (ofLine l).WellFormed) (h' : ∀ l ∈ ls', (ofLine l).WellFormed)
    (hkind : ∀ kind, ls.filter (lineKind · = kind) = ls'.filter (lineKind · = kind)) : v.IsSaidBy ls' := by
  have hread := (Version.exists_isSaidBy_iff hv.1).mp ⟨v, hv⟩
  have hread' : ∀ l ∈ ls', ∃ s, VersionLine.read l = .ok s := by
    intro l hl
    have hmem : l ∈ ls'.filter (lineKind · = lineKind l) := List.mem_filter.mpr ⟨hl, by simp⟩
    rw [← hkind] at hmem
    exact hread l (List.mem_filter.mp hmem).1
  obtain ⟨v', hv'⟩ := (Version.exists_isSaidBy_iff hne).mpr hread'
  rwa [eq_concat_of_isSaidBy hv h false, concat_alone_congr h h' false hkind,
    ← eq_concat_of_isSaidBy hv' h' false]

/-! ## The whole document -/

namespace WellFormed
variable {o : Outline} (h : o.WellFormed) (ended : Bool)
include h

theorem exists_read_iff : (∃ d, Definitions.read (o.text ended) = .ok d) ↔
    (∃ d, Definitions.read (o.columnsPart.text ended) = .ok d) ∧
      ∀ b ∈ o.blocks, ∀ l ∈ b.lines, ∃ d, Definitions.read ((Outline.ofLine l).text ended) = .ok d := by
  have hsaid : (∃ vs, List.Forall₂ (fun (b : Block) (v : Version) => v.IsSaidBy b.lines) o.blocks vs) ↔
      ∀ b ∈ o.blocks, ∀ l ∈ b.lines, ∃ d, Definitions.read ((Outline.ofLine l).text ended) = .ok d := by
    rw [exists_forall₂_iff]
    refine forall₂_congr fun b hb => ?_
    rw [Version.exists_isSaidBy_iff (h.blocks b hb).lines_ne]
    refine forall₂_congr fun l hl => ?_
    simp only [read_ofLine_iff (h.ofLine hb hl)]
    exact ⟨fun ⟨s, hs⟩ => ⟨_, s, hs, rfl⟩, fun ⟨_, s, hs, _⟩ => ⟨s, hs⟩⟩
  rw [← hsaid]
  simp only [h.read_text_iff, h.columnsPart.read_text_iff]
  constructor
  · rintro ⟨d, hcolumns, hversions⟩
    exact ⟨⟨{ d with versions := [] }, hcolumns, .nil⟩, d.versions, hversions⟩
  · rintro ⟨⟨d, hcolumns, -⟩, vs, hversions⟩
    exact ⟨{ d with versions := vs }, hcolumns, hversions⟩

theorem columns_of_read {d : Definitions} (hd : Definitions.read (o.text ended) = .ok d) :
    Definitions.read (o.columnsPart.text ended) = .ok { d with versions := [] } := by
  obtain ⟨hcolumns, -⟩ := (h.read_text_iff ended).mp hd
  exact (h.columnsPart.read_text_iff ended).mpr ⟨hcolumns, .nil⟩

theorem versions_of_read {d : Definitions} (hd : Definitions.read (o.text ended) = .ok d) :
    d.versions = o.blocks.map fun b => Version.concat (b.lines.flatMap (alone ended)) := by
  obtain ⟨-, hversions⟩ := (h.read_text_iff ended).mp hd
  have hlines : ∀ b ∈ o.blocks, ∀ l ∈ b.lines, (Outline.ofLine l).WellFormed := fun b hb l hl => h.ofLine hb hl
  have heq := ((List.forall₂_and_left _ _).mpr ⟨hlines, hversions⟩).imp
    fun b v ⟨hwf, hv⟩ => eq_concat_of_isSaidBy hv hwf ended
  rw [eq_comm, ← List.forall₂_eq_eq_eq, List.forall₂_map_left_iff]
  exact heq.imp fun b v e => e.symm

theorem read_of_kinds {d : Definitions} (hd : Definitions.read (o.text ended) = .ok d) {o' : Outline}
    (h' : o'.WellFormed) (hcolumns : o'.columns = o.columns)
    (hkind : List.Forall₂ (fun b b' => ∀ kind, b.lines.filter (lineKind · = kind) =
      b'.lines.filter (lineKind · = kind)) o.blocks o'.blocks) :
    Definitions.read (o'.text ended) = .ok d := by
  obtain ⟨hc, hversions⟩ := (h.read_text_iff ended).mp hd
  refine (h'.read_text_iff ended).mpr ⟨hcolumns ▸ hc, ?_⟩
  have hleft := (List.forall₂_and_left _ _).mpr ⟨fun b hb => hb, hkind⟩
  have hright := (List.forall₂_and_left _ _).mpr ⟨fun b hb => hb, hleft.flip⟩
  refine forall₂_join ?_ hright.flip hversions
  rintro b b' v ⟨hb', hb, hkinds⟩ hv
  exact isSaidBy_of_kinds hv (h'.blocks b' hb').lines_ne (fun l hl => h.ofLine hb hl)
    (fun l hl => h'.ofLine hb' hl) hkinds

end WellFormed

/-- A document is accepted exactly when its columns are, and each version line alone. It then has the columns of
the one, and for each block the version that its lines say alone. Lines of different kinds can change places. -/
theorem read_text_parts {o : Outline} (h : o.WellFormed) (ended : Bool) :
    ((∃ d, Definitions.read (o.text ended) = .ok d) ↔
      (∃ d, Definitions.read (o.columnsPart.text ended) = .ok d) ∧
        ∀ b ∈ o.blocks, ∀ l ∈ b.lines, ∃ d, Definitions.read ((ofLine l).text ended) = .ok d) ∧
    (∀ d, Definitions.read (o.text ended) = .ok d →
      (∃ d₀, Definitions.read (o.columnsPart.text ended) = .ok d₀ ∧ d.columns = d₀.columns) ∧
      d.versions = o.blocks.map fun b => Version.concat (b.lines.flatMap (alone ended))) ∧
    ∀ d (o' : Outline), Definitions.read (o.text ended) = .ok d → o'.WellFormed → o'.columns = o.columns →
      List.Forall₂ (fun b b' => ∀ kind, b.lines.filter (lineKind · = kind) =
        b'.lines.filter (lineKind · = kind)) o.blocks o'.blocks →
      Definitions.read (o'.text ended) = .ok d := by
  refine ⟨h.exists_read_iff ended, fun d hd => ⟨?_, h.versions_of_read ended hd⟩, ?_⟩
  · exact ⟨_, h.columns_of_read ended hd, rfl⟩
  · intro d o' hd h' hcolumns hkind
    exact h.read_of_kinds ended hd h' hcolumns hkind

/-- A version whose headings stand between its fields, and one of a comment alone. -/
def scattered : Outline where
  heading := "COLUMNS\r".toList
  columns := ["int ID".toList, "float Scale // of the model".toList]
  blocks :=
    [⟨[[], "\t".toList], ["LAYOUT A1".toList, "$id$ID<32>".toList, "BUILD 1.2.3.4".toList, "LAYOUT B2".toList,
       "Scale".toList, "BUILD 2.0.0.1-2.0.0.9".toList]⟩,
     ⟨[[]], ["COMMENT late".toList]⟩]

def gathered : Outline where
  heading := "COLUMNS".toList
  columns := ["int ID".toList, "float Scale // of the model".toList]
  blocks :=
    [⟨[[]], ["LAYOUT A1".toList, "LAYOUT B2".toList, "BUILD 1.2.3.4".toList, "BUILD 2.0.0.1-2.0.0.9".toList,
       "$id$ID<32>".toList, "Scale".toList]⟩,
     ⟨[[], []], ["COMMENT late".toList]⟩]

def gatheredRead : Definitions where
  columns := [⟨"ID", .int, none, true, none⟩, ⟨"Scale", .float, none, true, some "of the model"⟩]
  versions :=
    [⟨["A1", "B2"], [⟨1, 2, 3, 4⟩], [⟨⟨2, 0, 0, 1⟩, ⟨2, 0, 0, 9⟩⟩], [],
      [⟨"ID", 32, true, 0, true, false, false, none⟩, ⟨"Scale", 0, false, 0, false, false, false, none⟩]⟩,
     ⟨[], [], [], ["late"], []⟩]

theorem read_text_parts_gathered : scattered.WellFormed ∧ gathered.WellFormed ∧
    Definitions.read (scattered.text true) = .ok gatheredRead ∧
    Definitions.read (gathered.text true) = .ok gatheredRead ∧
    gatheredRead.versions = scattered.blocks.map fun b => Version.concat (b.lines.flatMap (alone true)) := by
  have h : scattered.WellFormed := by decide +kernel
  have h' : gathered.WellFormed := by decide +kernel
  have hread : Definitions.read (scattered.text true) = .ok gatheredRead := by decide +kernel
  have hkind : List.Forall₂ (fun (b b' : Block) => ∀ kind, b.lines.filter (lineKind · = kind) =
      b'.lines.filter (lineKind · = kind)) scattered.blocks gathered.blocks := by
    refine .cons (fun kind => ?_) (.cons (fun kind => rfl) .nil)
    cases kind with
    | layout => decide +kernel
    | build => decide +kernel
    | comment => decide +kernel
    | field => decide +kernel
  obtain ⟨-, hparts, hplaces⟩ := read_text_parts h true
  exact ⟨h, h', hread, hplaces _ _ hread h' rfl hkind, (hparts _ hread).2⟩

end Outline

end TableLayout
