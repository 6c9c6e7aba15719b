import Mathlib.Data.List.Sort
import TableLayout.Plan
import TableLayout.Proofs.DisplayNames.Stems
import TableLayout.Proofs.Listfile
import TableLayout.Proofs.Listfile.Entries
import TableLayout.Proofs.Text.ByteOrder

/-!
# Plans from a listfile

A plan takes every database with a display name, once and under the name of its own path. The databases are in the
order of their paths in lower case; a stable sort keeps those with the same path in the order of their numbers.
-/

namespace TableLayout

open Text

/-! ## Sorting by a key -/

section
variable {α : Type} (key : α → String)

theorem le_key_trans (a b c : α) (hab : decide (key a ≤ key b) = true) (hbc : decide (key b ≤ key c) = true) :
    decide (key a ≤ key c) = true :=
  decide_eq_true (String.le_trans (of_decide_eq_true hab) (of_decide_eq_true hbc))

theorem le_key_total (a b : α) : (decide (key a ≤ key b) || decide (key b ≤ key a)) = true := by
  simpa using String.le_total (key a) (key b)

/-- The items with one key stay in the order that they had. -/
theorem filter_mergeSort_key (l : List α) (k : String) :
    (l.mergeSort fun a b => key a ≤ key b).filter (key · = k) = l.filter (key · = k) := by
  have hequal : (l.filter (key · = k)).Pairwise fun a b => decide (key a ≤ key b) = true := by
    apply List.pairwise_of_forall_mem_list
    intro a ha b hb
    rw [of_decide_eq_true (List.mem_filter.mp ha).2, of_decide_eq_true (List.mem_filter.mp hb).2]
    exact decide_eq_true (String.le_refl k)
  have hsub := List.sublist_mergeSort (le_key_trans key) (le_key_total key) hequal List.filter_sublist
  have hfilter := hsub.filter (key · = k)
  simp only [List.filter_filter, Bool.and_self] at hfilter
  have hperm := (List.mergeSort_perm l fun a b => decide (key a ≤ key b)).filter (key · = k)
  exact (hfilter.eq_of_length hperm.length_eq.symm).symm

end

namespace Listfile

theorem pairwise_le_databases (l : Listfile) : l.databases.Pairwise fun e e' => pathKey e.2 ≤ pathKey e'.2 :=
  List.pairwise_mergeSort' (fun e e' : UInt32 × String => pathKey e.2 ≤ pathKey e'.2) _

theorem filter_databases_sublist (l : Listfile) (k : String) :
    (l.databases.filter (pathKey ·.2 = k)).Sublist l.paths.toList := by
  unfold databases
  rw [filter_mergeSort_key fun e : UInt32 × String => pathKey e.2]
  exact List.filter_sublist.trans List.filter_sublist

theorem pairwise_databases (l : Listfile) : l.databases.Pairwise fun e e' =>
    pathKey e.2 < pathKey e'.2 ∨ pathKey e.2 = pathKey e'.2 ∧ e.1 < e'.1 := by
  apply List.pairwise_iff_forall_sublist.mpr
  intro e e' hsub
  have hle := List.pairwise_iff_forall_sublist.mp l.pairwise_le_databases hsub
  by_cases hlt : pathKey e.2 < pathKey e'.2
  · exact .inl hlt
  · have heq : pathKey e.2 = pathKey e'.2 := String.le_antisymm hle (String.not_lt.mp hlt)
    have hclass := hsub.filter (pathKey ·.2 = pathKey e'.2)
    have hboth : [e, e'].filter (pathKey ·.2 = pathKey e'.2) = [e, e'] := by simp [heq]
    rw [hboth] at hclass
    have hentries := hclass.trans (l.filter_databases_sublist _)
    exact .inr ⟨heq, List.pairwise_iff_forall_sublist.mp l.pairwise_entries hentries⟩

end Listfile

namespace Plan

/-- The order of databases: by the bytes of the path in lower case, then by number. -/
def Precedes (e e' : UInt32 × String) : Prop :=
  bytesOf (Listfile.pathKey e.2) < bytesOf (Listfile.pathKey e'.2) ∨
    Listfile.pathKey e.2 = Listfile.pathKey e'.2 ∧ e.1 < e'.1

theorem Precedes.ne {e e' : UInt32 × String} (h : Precedes e e') : e ≠ e' := by
  rintro rfl
  rcases h with hbytes | ⟨-, hid⟩
  · exact List.lt_irrefl _ hbytes
  · exact UInt32.lt_irrefl _ hid

theorem pairwise_tables (l : Listfile) (names : DisplayNames) (build : Option Build) :
    (ofListfile l names build).tables.Pairwise fun t t' => ∃ path path', l.path? t.2 = some path ∧
      l.path? t'.2 = some path' ∧ Precedes (t.2, path) (t'.2, path') := by
  unfold ofListfile
  rw [List.pairwise_filterMap]
  apply l.pairwise_databases.imp_of_mem
  rintro ⟨id, path⟩ ⟨id', path'⟩ hmem hmem' horder t ht t' ht'
  obtain ⟨name, -, rfl⟩ := Option.map_eq_some_iff.mp ht
  obtain ⟨name', -, rfl⟩ := Option.map_eq_some_iff.mp ht'
  exact ⟨path, path', (Listfile.mem_databases.mp hmem).1, (Listfile.mem_databases.mp hmem').1,
    horder.imp_left bytesOf_lt⟩

theorem nodup_ids (l : Listfile) (names : DisplayNames) (build : Option Build) :
    ((ofListfile l names build).tables.map (·.2)).Nodup := by
  apply List.pairwise_map.mpr
  apply (pairwise_tables l names build).imp
  rintro ⟨name, id⟩ ⟨name', id'⟩ ⟨path, path', hpath, hpath', hprecedes⟩ hid
  obtain rfl : id = id' := hid
  obtain rfl := Option.some.inj (hpath.symm.trans hpath')
  exact hprecedes.ne rfl

theorem mem_tables_iff {l : Listfile} {names : DisplayNames} {given : List (String × String)}
    (h : names.FilledBy given) (build : Option Build) {name : String} {id : UInt32} :
    (name, id) ∈ (ofListfile l names build).tables ↔ ∃ path stem e, l.path? id = some path ∧
      Listfile.IsDatabase path ∧ DisplayNames.IsStemOf path stem ∧
      IsLast (fun e => DisplayNames.SameName e.1 stem) given e ∧ e.2 = name := by
  rw [mem_tables_ofListfile]
  simp only [Listfile.mem_databases, h.friendly?_eq_some]
  constructor
  · rintro ⟨path, ⟨hpath, hdatabase⟩, stem, e, hstem, hname⟩
    exact ⟨path, stem, e, hpath, hdatabase, hstem, hname⟩
  · rintro ⟨path, stem, e, hpath, hdatabase, hstem, hname⟩
    exact ⟨path, ⟨hpath, hdatabase⟩, stem, e, hstem, hname⟩

theorem ofListfile_congr {l l' : Listfile} (h : ∀ id, l.path? id = l'.path? id) (names : DisplayNames)
    (build : Option Build) : ofListfile l names build = ofListfile l' names build := by
  unfold ofListfile Listfile.databases
  rw [Listfile.toList_eq_of_path? h]

/-- A plan has the databases whose stems are known names, each once and under the last spelling of its own stem, in the
order of their paths. The lines of the listfile count by the paths that they give in the end only. -/
theorem tables_of_databases (text : String) {names : DisplayNames} {given : List (String × String)}
    (h : names.FilledBy given) (build : Option Build) :
    (∀ name id, (name, id) ∈ (ofListfile (.ofText text) names build).tables ↔
      ∃ path stem e, (Listfile.ofText text).path? id = some path ∧ Listfile.IsDatabase path ∧
        DisplayNames.IsStemOf path stem ∧ IsLast (fun e => DisplayNames.SameName e.1 stem) given e ∧ e.2 = name) ∧
    (∀ id, (∃ name, (name, id) ∈ (ofListfile (.ofText text) names build).tables) ↔
      ∃ path stem, (Listfile.ofText text).path? id = some path ∧ Listfile.IsDatabase path ∧
        DisplayNames.IsStemOf path stem ∧ ∃ e ∈ given, DisplayNames.SameName e.1 stem) ∧
    ((ofListfile (.ofText text) names build).tables.map (·.2)).Nodup ∧
    ((ofListfile (.ofText text) names build).tables.Pairwise fun t t' => ∃ path path',
      (Listfile.ofText text).path? t.2 = some path ∧ (Listfile.ofText text).path? t'.2 = some path' ∧
      Precedes (t.2, path) (t'.2, path')) ∧
    (∀ l : Listfile, (∀ id, l.path? id = (Listfile.ofText text).path? id) →
      ofListfile l names build = ofListfile (.ofText text) names build) ∧
    ∀ text', (∀ id, Listfile.linesFor id text' = Listfile.linesFor id text) →
      ofListfile (.ofText text') names build = ofListfile (.ofText text) names build := by
  refine ⟨fun name id => mem_tables_iff h build, ?_, nodup_ids _ names build, pairwise_tables _ names build,
    fun l hl => ofListfile_congr hl names build, ?_⟩
  · intro id
    simp only [mem_tables_iff h build]
    constructor
    · rintro ⟨name, path, stem, e, hpath, hdatabase, hstem, hlast, -⟩
      exact ⟨path, stem, hpath, hdatabase, hstem, e, hlast.mem, hlast.prop⟩
    · rintro ⟨path, stem, hpath, hdatabase, hstem, hknown⟩
      obtain ⟨e, hlast⟩ := exists_isLast hknown
      exact ⟨e.2, path, stem, e, hpath, hdatabase, hstem, hlast, rfl⟩
  · intro text' hlines
    exact ofListfile_congr (fun id => Listfile.path?_eq_of_linesFor (hlines id)) names build

def stockText : String := "7;x\\MAP.db2\nno\n9;spell.db2\n3;Spell.db2\n5;map.blp"

theorem tables_of_databases_stock :
    DisplayNames.remade.FilledBy ([("map", "Map"), ("Spell", "Spell")] ++ [("MAP", "Map2")]) ∧
    ("Map2", 7) ∈ (ofListfile (.ofText stockText) .remade none).tables ∧
    ("Spell", 3) ∈ (ofListfile (.ofText stockText) .remade none).tables ∧
    (∀ id, Listfile.linesFor id (Listfile.entriesOnly stockText) = Listfile.linesFor id stockText) ∧
    ofListfile (.ofText (Listfile.entriesOnly stockText)) .remade none = ofListfile (.ofText stockText) .remade none := by
  have hentries : (Listfile.ofText stockText).paths.toList =
      [(3, "Spell.db2"), (5, "map.blp"), (7, "x\\MAP.db2"), (9, "spell.db2")] := by decide +kernel
  have hpath : ∀ id path, (id, path) ∈ (Listfile.ofText stockText).paths.toList →
      (Listfile.ofText stockText).path? id = some path := fun id path => Listfile.mem_entries.mp
  rw [hentries] at hpath
  obtain ⟨htables, -, -, -, -, hsame⟩ := tables_of_databases stockText DisplayNames.filledBy_remade none
  refine ⟨DisplayNames.filledBy_remade, ?_, ?_, fun id => Listfile.linesFor_entriesOnly id stockText,
    hsame _ fun id => Listfile.linesFor_entriesOnly id stockText⟩
  · refine (htables _ _).mpr ⟨"x\\MAP.db2", "MAP", ("MAP", "Map2"), hpath _ _ (by simp), ?_, ?_, ?_, rfl⟩
    · unfold Listfile.IsDatabase
      decide
    · exact DisplayNames.isStemOf_iff.mpr (by decide +kernel)
    · exact ⟨[("map", "Map"), ("Spell", "Spell")], [], rfl, by decide +kernel, by simp⟩
  · refine (htables _ _).mpr ⟨"Spell.db2", "Spell", ("Spell", "Spell"), hpath _ _ (by simp), ?_, ?_, ?_, rfl⟩
    · unfold Listfile.IsDatabase
      decide
    · exact DisplayNames.isStemOf_iff.mpr (by decide +kernel)
    · refine ⟨[("map", "Map")], [("MAP", "Map2")], rfl, by decide +kernel, ?_⟩
      intro e he
      obtain rfl := List.mem_singleton.mp he
      show ¬DisplayNames.SameName "MAP" "Spell"
      decide +kernel

end Plan

end TableLayout
