import Mathlib.Tactic.MkIffOfInductiveProp
import TableLayout.Document.Reader
import TableLayout.Proofs.Document.WrittenHeading
import TableLayout.Proofs.Traversal

/-!
# Runs of the document reader

What a run makes of column lines, of the lines of one version, and of versions after empty lines. The reader
keeps nothing but the definitions so far, so that the parts of a document are read one after the other.
-/

namespace TableLayout

open Text

theorem Column.trimEnd_ne_nil {line : List Char} {c : Column} (h : Column.read line = .ok c) :
    trimEnd line ≠ [] := by
  intro hnil
  rw [← Column.read_trimEnd, hnil] at h
  cases h

theorem VersionLine.trimEnd_ne_nil {line : List Char} {said : VersionLine}
    (h : VersionLine.read line = .ok said) : trimEnd line ≠ [] := by
  intro hnil
  rw [← VersionLine.read_trimEnd, hnil] at h
  cases h

/-- What the lines of a block add up to. -/
def Version.IsSaidBy (v : Version) (lines : List (List Char)) : Prop :=
  lines ≠ [] ∧ ∃ said, List.Forall₂ (fun line s => VersionLine.read line = .ok s) lines said ∧
    said.foldl Version.add .empty = v

theorem Version.IsSaidBy.trimEnd_ne_nil {v : Version} {lines : List (List Char)} (h : v.IsSaidBy lines) :
    ∀ l ∈ lines, trimEnd l ≠ [] := by
  obtain ⟨-, said, hsaid, -⟩ := h
  intro l hl
  obtain ⟨s, -, hs⟩ := forall₂_mem_right hsaid.flip hl
  exact VersionLine.trimEnd_ne_nil hs

namespace Reader

theorem run_cons_eq_ok {n : Nat} {r r' : Reader} {line : List Char} {rest : List (List Char)} :
    run n r (line :: rest) = .ok r' ↔
      ∃ r₁, r.step (trimEnd line) = .ok r₁ ∧ run (n + 1) r₁ rest = .ok r' := by
  rw [run]
  cases r.step (trimEnd line) with
  | error fault => simp
  | ok r₁ => simp

/-! ## Columns -/

theorem pushColumn_eq_ok {d d' : Definitions} {c : Column} :
    d.pushColumn c = .ok d' ↔ ∃ hc : c.name ∉ d.columns.map Column.name, d' = d.withColumn c hc := by
  unfold Definitions.pushColumn
  split
  · next h => simp [Definitions.isSome_column?_iff.mp h]
  · next h => simp [mt Definitions.isSome_column?_iff.mpr h, eq_comm]

theorem step_column {d : Definitions} {line : List Char} {r : Reader} (hne : trimEnd line ≠ []) :
    (Reader.columns d).step (trimEnd line) = .ok r ↔ ∃ c, Column.read line = .ok c ∧
      ∃ hc : c.name ∉ d.columns.map Column.name, r = .columns (d.withColumn c hc) := by
  have hline : (trimEnd line).isEmpty = false := by simpa using hne
  simp only [step, hline, Bool.false_eq_true, if_false, readColumn, bind_eq_ok, Column.read_trimEnd]
  refine exists_congr fun c => and_congr_right fun _ => ?_
  cases hp : d.pushColumn c with
  | error taken =>
    have hmem : c.name ∈ d.columns.map Column.name := by
      by_contra h
      rw [pushColumn_eq_ok.mpr ⟨h, rfl⟩] at hp
      cases hp
    simp [hmem, throw, throwThe, MonadExceptOf.throw]
  | ok d' =>
    obtain ⟨hnew, rfl⟩ := pushColumn_eq_ok.mp hp
    simp [hnew, pure, Except.pure, eq_comm]

/-- Column lines append their columns, unless two names agree. -/
theorem run_columns {lines : List (List Char)} (hne : ∀ l ∈ lines, trimEnd l ≠ []) {n : Nat}
    {d : Definitions} {r : Reader} :
    run n (.columns d) lines = .ok r ↔
      ∃ cs, List.Forall₂ (fun line c => Column.read line = .ok c) lines cs ∧
      ∃ hcs : ((d.columns ++ cs).map Column.name).Nodup, r = .columns ⟨d.columns ++ cs, d.versions, hcs⟩ := by
  induction lines generalizing n d with
  | nil => simp [run, d.distinct, eq_comm]
  | cons line lines ih =>
    have hrest : ∀ l ∈ lines, trimEnd l ≠ [] := fun l hl => hne l (List.mem_cons_of_mem _ hl)
    rw [run_cons_eq_ok]
    constructor
    · rintro ⟨r₁, hs, hr⟩
      obtain ⟨c, hc, hnew, rfl⟩ := (step_column (hne line List.mem_cons_self)).mp hs
      obtain ⟨cs, hcs, hnodup, rfl⟩ := (ih hrest).mp hr
      simp only [Definitions.withColumn, List.append_assoc, List.singleton_append] at hnodup ⊢
      exact ⟨c :: cs, .cons hc hcs, hnodup, rfl⟩
    · rintro ⟨cs, hcs, hnodup, rfl⟩
      cases hcs with
      | @cons _ c _ cs hc hcs =>
        have e : d.columns ++ c :: cs = d.columns ++ [c] ++ cs := by simp
        have hnodup' := e ▸ hnodup
        have hnew : c.name ∉ d.columns.map Column.name := by
          rw [List.map_append] at hnodup'
          exact (nodup_names_append.mp (List.nodup_append.mp hnodup').1).2
        refine ⟨.columns (d.withColumn c hnew), ?_, ?_⟩
        · exact (step_column (hne line List.mem_cons_self)).mpr ⟨c, hc, hnew, rfl⟩
        · exact (ih hrest).mpr ⟨cs, hcs, hnodup', congrArg Reader.columns (Definitions.ext e rfl)⟩

/-! ## Versions -/

theorem step_version {d : Definitions} {current : Option Version} {line : List Char} {r : Reader}
    (hne : trimEnd line ≠ []) : (Reader.versions d current).step (trimEnd line) = .ok r ↔
      ∃ said, VersionLine.read line = .ok said ∧ r = .versions d (some ((current.getD .empty).add said)) := by
  have hline : (trimEnd line).isEmpty = false := by simpa using hne
  simp only [step, hline, Bool.false_eq_true, if_false, readVersionLine, bind_eq_ok, VersionLine.read_trimEnd,
    pure, Except.pure, Except.ok.injEq]
  simp only [eq_comm]

theorem run_version {lines : List (List Char)} (hne : ∀ l ∈ lines, trimEnd l ≠ []) {n : Nat}
    {d : Definitions} {v : Version} {r : Reader} :
    run n (.versions d (some v)) lines = .ok r ↔
      ∃ said, List.Forall₂ (fun line s => VersionLine.read line = .ok s) lines said ∧
        r = .versions d (some (said.foldl Version.add v)) := by
  induction lines generalizing n v with
  | nil => simp [run, eq_comm]
  | cons line lines ih =>
    have hrest : ∀ l ∈ lines, trimEnd l ≠ [] := fun l hl => hne l (List.mem_cons_of_mem _ hl)
    rw [run_cons_eq_ok]
    constructor
    · rintro ⟨r₁, hs, hr⟩
      obtain ⟨s, hline, rfl⟩ := (step_version (hne line List.mem_cons_self)).mp hs
      obtain ⟨said, hsaid, rfl⟩ := (ih hrest).mp hr
      exact ⟨s :: said, .cons hline hsaid, rfl⟩
    · rintro ⟨said, hsaid, rfl⟩
      cases hsaid with
      | cons hline hsaid =>
        exact ⟨_, (step_version (hne line List.mem_cons_self)).mpr ⟨_, hline, rfl⟩,
          (ih hrest).mpr ⟨_, hsaid, rfl⟩⟩

theorem run_block {lines : List (List Char)} (hne : ∀ l ∈ lines, trimEnd l ≠ []) (hlines : lines ≠ [])
    {n : Nat} {d : Definitions} {r : Reader} :
    run n (.versions d none) lines = .ok r ↔ ∃ v, v.IsSaidBy lines ∧ r = .versions d (some v) := by
  have hopen : run n (.versions d none) lines = run n (.versions d (some .empty)) lines := by
    cases lines with
    | nil => exact absurd rfl hlines
    | cons line lines =>
      have hline : (trimEnd line).isEmpty = false := by simpa using hne line List.mem_cons_self
      simp only [run, step, hline, readVersionLine, Option.getD_none, Option.getD_some, Bool.false_eq_true,
        if_false]
  rw [hopen, run_version hne]
  constructor
  · rintro ⟨said, hsaid, rfl⟩
    exact ⟨_, ⟨hlines, said, hsaid, rfl⟩, rfl⟩
  · rintro ⟨v, ⟨-, said, hsaid, rfl⟩, rfl⟩
    exact ⟨said, hsaid, rfl⟩

theorem step_nil_of_finish {r : Reader} {d : Definitions} (h : r.finish = .ok d) :
    r.step [] = .ok (.versions d none) := by
  cases r with
  | start => cases h
  | columns defs =>
    cases h
    rfl
  | versions defs current =>
    cases h
    rfl

theorem run_gap {gap : List (List Char)} (hne : gap ≠ []) (hblank : ∀ l ∈ gap, trimEnd l = []) {n : Nat}
    {r : Reader} {d : Definitions} (h : r.finish = .ok d) : run n r gap = .ok (.versions d none) := by
  induction gap generalizing n r with
  | nil => exact absurd rfl hne
  | cons line gap ih =>
    have hstep : r.step (trimEnd line) = .ok (.versions d none) := by
      rw [hblank line List.mem_cons_self]
      exact step_nil_of_finish h
    refine run_cons_eq_ok.mpr ⟨_, hstep, ?_⟩
    by_cases hgap : gap = []
    · rw [hgap]
      rfl
    · exact ih hgap (fun l hl => hblank l (List.mem_cons_of_mem _ hl)) rfl

end Reader

structure Block where
  gap : List (List Char)
  lines : List (List Char)

namespace Block

def all (b : Block) : List (List Char) := b.gap ++ b.lines

@[mk_iff]
structure WellFormed (b : Block) : Prop where
  gap_ne : b.gap ≠ []
  gap_blank : ∀ l ∈ b.gap, ∀ c ∈ l, isBlank c = true
  lines_ne : b.lines ≠ []
  lines_filled : ∀ l ∈ b.lines, ∃ c ∈ l, isBlank c = false

instance (b : Block) : Decidable b.WellFormed := decidable_of_iff' _ b.wellFormed_iff

end Block

theorem Version.IsSaidBy.wellFormed_block {v : Version} {lines : List (List Char)} (h : v.IsSaidBy lines) :
    (⟨[[]], lines⟩ : Block).WellFormed where
  gap_ne := List.cons_ne_nil _ _
  gap_blank l hl c hc := by
    rw [List.mem_singleton.mp hl] at hc
    cases hc
  lines_ne := h.1
  lines_filled l hl := trimEnd_ne_nil_iff.mp (h.trimEnd_ne_nil l hl)

namespace Reader

/-- Each block appends the version that its lines say, and all of its lines must say something. -/
theorem run_blocks {blocks : List Block} (hblocks : ∀ b ∈ blocks, b.WellFormed) {n : Nat} {r : Reader}
    {d d' : Definitions} (hr : r.finish = .ok d) :
    run n r (blocks.flatMap Block.all) >>= finish = .ok d' ↔
      ∃ vs, List.Forall₂ (fun b v => v.IsSaidBy b.lines) blocks vs ∧
        d' = { d with versions := d.versions ++ vs } := by
  induction blocks generalizing n r d with
  | nil => simp [run, bind, Except.bind, hr, eq_comm]
  | cons b blocks ih =>
    have hb := hblocks b List.mem_cons_self
    have hrest : ∀ b ∈ blocks, b.WellFormed := fun b hb => hblocks b (List.mem_cons_of_mem _ hb)
    have hgap : ∀ l ∈ b.gap, trimEnd l = [] := fun l hl => trimEnd_eq_nil_iff.mpr (hb.gap_blank l hl)
    have hlines : ∀ l ∈ b.lines, trimEnd l ≠ [] := fun l hl =>
      trimEnd_ne_nil_iff.mpr (hb.lines_filled l hl)
    rw [List.flatMap_cons, Block.all, List.append_assoc, run_append, run_gap hb.gap_ne hgap hr]
    simp only [bind_eq_ok, run_append, Except.ok.injEq, exists_eq_left', run_block hlines hb.lines_ne]
    constructor
    · rintro ⟨r₂, ⟨r₁, ⟨v, hv, rfl⟩, hr₂⟩, hfinish⟩
      obtain ⟨vs, hvs, rfl⟩ := (ih hrest (d := d.pushVersion v) rfl).mp (bind_eq_ok.mpr ⟨r₂, hr₂, hfinish⟩)
      exact ⟨v :: vs, .cons hv hvs, by simp [Definitions.pushVersion]⟩
    · rintro ⟨vs, hvs, rfl⟩
      cases hvs with
      | @cons _ v _ vs hv hvs =>
        have hpush : { d with versions := d.versions ++ v :: vs } =
            { d.pushVersion v with versions := (d.pushVersion v).versions ++ vs } := by simp [Definitions.pushVersion]
        have hsaid := (ih hrest (n := n + b.gap.length + b.lines.length) (r := .versions d (some v))
          (d := d.pushVersion v) rfl).mpr ⟨vs, hvs, hpush⟩
        obtain ⟨r₂, hr₂, hfinish⟩ := bind_eq_ok.mp hsaid
        exact ⟨r₂, ⟨_, ⟨v, hv, rfl⟩, hr₂⟩, hfinish⟩

end Reader

theorem Definitions.read_iff_of_lines {text heading : List Char} {columns : List (List Char)}
    {blocks : List Block} (htext : lines text = heading :: (columns ++ blocks.flatMap Block.all))
    (hheading : trimEnd heading = "COLUMNS".toList) (hcolumns : ∀ l ∈ columns, ∃ c ∈ l, isBlank c = false)
    (hblocks : ∀ b ∈ blocks, b.WellFormed) {d : Definitions} :
    read text = .ok d ↔ List.Forall₂ (fun line c => Column.read line = .ok c) columns d.columns ∧
      List.Forall₂ (fun b v => v.IsSaidBy b.lines) blocks d.versions := by
  have hstart : Reader.start.step (trimEnd heading) = .ok (.columns .empty) := by
    rw [hheading]
    decide
  have hne : ∀ l ∈ columns, trimEnd l ≠ [] := fun l hl => trimEnd_ne_nil_iff.mpr (hcolumns l hl)
  have hread : read text = (Reader.run 2 (.columns .empty) columns >>= fun r =>
      Reader.run (2 + columns.length) r (blocks.flatMap Block.all)) >>= Reader.finish := by
    unfold read
    rw [htext, Reader.run, hstart]
    simp only [Reader.run_append]
  rw [hread]
  simp only [bind_eq_ok, Reader.run_columns hne]
  constructor
  · rintro ⟨r₂, ⟨r₁, ⟨cs, hcs, hnodup, rfl⟩, hr₂⟩, hfinish⟩
    obtain ⟨vs, hvs, rfl⟩ := (Reader.run_blocks hblocks rfl).mp (bind_eq_ok.mpr ⟨r₂, hr₂, hfinish⟩)
    exact ⟨hcs, hvs⟩
  · rintro ⟨hcs, hvs⟩
    have hrest := (Reader.run_blocks hblocks (n := 2 + columns.length) (r := .columns { d with versions := [] })
      rfl).mpr ⟨d.versions, hvs, rfl⟩
    obtain ⟨r₂, hr₂, hfinish⟩ := bind_eq_ok.mp hrest
    exact ⟨r₂, ⟨_, ⟨d.columns, hcs, d.distinct, rfl⟩, hr₂⟩, hfinish⟩

end TableLayout
