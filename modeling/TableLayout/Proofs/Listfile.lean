import TableLayout.Program.Run
import TableLayout.Proofs.DisplayNames.Stems
import TableLayout.Proofs.Files.Folders
import TableLayout.Proofs.Listfile.Entries

/-!
# File numbers from a listfile

A batch goes from the entries of a listfile to the tables, a dump from a table to an entry. Where the databases have
paths of their own, in one directory and in lower case, both ways meet: the table of an entry is given its number.
-/

namespace TableLayout

open Text

namespace Listfile

def IsDatabase (path : String) : Prop := ".db2".toList <:+ path.toList

theorem mem_databases {l : Listfile} {id : UInt32} {path : String} :
    (id, path) ∈ l.databases ↔ l.path? id = some path ∧ IsDatabase path := by
  unfold databases
  rw [List.mem_mergeSort, List.mem_filter, mem_entries, List.isSuffixOf_iff_suffix]
  rfl

theorem idOf_eq {l : Listfile} {id : UInt32} {path : String} (h : l.path? id = some path)
    (hown : ∀ other, l.path? other = some path → other = id) : l.idOf path = id := by
  rcases l.idOf_cases path with ⟨hfound, -⟩ | ⟨hnone, -⟩
  · exact hown _ hfound
  · exact absurd h (hnone id)

/-- A file of the clients' database directory, whose name is in lower case. -/
def IsClientPath (path : String) : Prop :=
  ∃ stem, path = "dbfilesclient/" ++ stem ++ ".db2" ∧ '/' ∉ stem.toList ∧ '\\' ∉ stem.toList ∧
    ∀ c ∈ stem.toList, c.isUpper = false

/-- The databases have paths of their own, all of them client paths. -/
structure HasClientPaths (l : Listfile) : Prop where
  client : ∀ id path, l.path? id = some path → IsDatabase path → IsClientPath path
  own : ∀ id other path, l.path? id = some path → l.path? other = some path → IsDatabase path → id = other

end Listfile

theorem Plan.mem_tables_ofListfile {l : Listfile} {names : DisplayNames} {build : Option Build} {name : String}
    {id : UInt32} : (name, id) ∈ (ofListfile l names build).tables ↔
      ∃ path, (id, path) ∈ l.databases ∧ names.friendly? path = some name := by
  unfold ofListfile
  rw [List.mem_filterMap]
  constructor
  · intro ⟨entry, hmem, hname⟩
    obtain ⟨name', hfriendly, heq⟩ := Option.map_eq_some_iff.mp hname
    cases heq
    exact ⟨entry.2, hmem, hfriendly⟩
  · intro ⟨path, hmem, hfriendly⟩
    exact ⟨(id, path), hmem, by simp [hfriendly]⟩

/-- The stem of a client path is its table's name in lower case, which the way back spells again. -/
theorem databasePath_of_friendly {names : DisplayNames} (hown : names.IsOwn) {path name : String}
    (hpath : Listfile.IsClientPath path) (hname : names.friendly? path = some name) : databasePath name = path := by
  obtain ⟨stem, hstem, hslash, hback, hlower⟩ := hpath
  have hlist : path.toList = "dbfilesclient".toList ++ '/' :: (stem.toList ++ '.' :: ['d', 'b', '2']) := by
    simp [hstem]
  have hending : ∀ c ∈ '.' :: ['d', 'b', '2'], ¬DisplayNames.IsSlash c := by simp [DisplayNames.IsSlash]
  have hnot : ∀ c ∈ stem.toList ++ '.' :: ['d', 'b', '2'], ¬DisplayNames.IsSlash c := by
    intro c hc
    rcases List.mem_append.mp hc with hmem | hmem
    · rintro (rfl | rfl)
      · exact hslash hmem
      · exact hback hmem
    · exact hending c hmem
  have hfile : DisplayNames.IsFile path.toList (stem.toList ++ '.' :: ['d', 'b', '2']) :=
    ⟨hnot, .inr ⟨_, '/', hlist, .inl rfl⟩⟩
  have hstemOf : DisplayNames.IsStemOf path stem := ⟨_, hfile, .inr ⟨['d', 'b', '2'], rfl, by decide⟩⟩
  have hlookup : names.lookup stem = some name := by
    rw [← DisplayNames.isStemOf_iff.mp hstemOf]
    exact hname
  have hkey : DisplayNames.key name = stem := by
    rw [hown stem name hlookup, DisplayNames.key_of_no_upper hlower]
  rw [hstem, ← hkey]
  rfl

/-! ## Looking up for a dump -/

/-- The session succeeds with the answer, and changes no file. -/
def Gives {α : Type} (x : Session (StateM FileTree) α) (t : FileTree) (answer : α) : Prop :=
  ∀ console, ∃ console', (x.run.run console).run t = ((.ok answer, console'), t)

section
variable {α β : Type} {t : FileTree} {a : α} {b : β}

theorem gives_pure (a : α) : Gives (pure a) t a := fun console => ⟨console, rfl⟩

theorem Gives.bind {x : Session (StateM FileTree) α} {f : α → Session (StateM FileTree) β} (hx : Gives x t a)
    (hf : Gives (f a) t b) : Gives (x >>= f) t b := by
  intro console
  obtain ⟨console₁, hx⟩ := hx console
  obtain ⟨console₂, hf⟩ := hf console₁
  refine ⟨console₂, ?_⟩
  rw [ExceptT.run_bind, StateT.run_bind, StateT.run_bind, hx]
  exact hf

theorem gives_say (notices : List Notice) : Gives (say notices) t () := fun _ => ⟨_, rfl⟩

theorem gives_demand {ε : Type} {trouble : ε → Trouble} {result : StateM FileTree (Except ε α)}
    (h : result.run t = (.ok a, t)) : Gives (demand trouble result) t a := by
  have hlift : Gives (liftM result) t (Except.ok a : Except ε α) := by
    intro console
    refine ⟨console, ?_⟩
    show ((Except.ok (result.run t).1, console), (result.run t).2) = _
    rw [h]
  exact hlift.bind (gives_pure a)

end

variable {t : FileTree} {path text : String}

theorem gives_readListfile (h : t.read path = .ok text.toUTF8) : Gives (readListfile path) t (.ofText text) := by
  obtain ⟨outcome, hrun, houtcome⟩ := FileTree.run_readText path t
  have hok : outcome = .ok text := (houtcome text).mpr h
  rw [hok] at hrun
  unfold readListfile
  apply Gives.bind (gives_demand hrun)
  dsimp only
  by_cases hmalformed : Listfile.malformedLines text ≠ 0
  · rw [if_pos hmalformed]
    exact (gives_say _).bind ((gives_say _).bind (gives_pure _))
  · rw [if_neg hmalformed]
    exact (gives_say _).bind (gives_pure _)

theorem gives_tableId {o : DumpOptions} (hid : o.fileId = none) (hlistfile : o.listfile = some path)
    (h : t.read path = .ok text.toUTF8) :
    Gives (tableId o) t ((Listfile.ofText text).idOf (databasePath o.table)) := by
  unfold tableId
  rw [hid, hlistfile]
  exact (gives_readListfile h).bind (gives_pure _)

/-! ## Both ways -/

/-- The tables that a batch takes from the listfile, with the names of the definitions as they are, are found again by
dumps: by the path of a name, and by the look-up that a dump makes in the file. -/
theorem dump_agrees_with_batch (text : String) (names : List String) (build : Option Build)
    (hpaths : (Listfile.ofText text).HasClientPaths) :
    ∀ name id, (name, id) ∈ (Plan.ofListfile (.ofText text) (.ofNames names) build).tables →
      (Listfile.ofText text).idOf (databasePath name) = id ∧
      ∀ (o : DumpOptions) (t : FileTree) (path : String), o.table = name → o.fileId = none → o.listfile = some path →
        t.read path = .ok text.toUTF8 → Gives (tableId o) t id := by
  intro name id hmem
  obtain ⟨path, hdatabase, hname⟩ := Plan.mem_tables_ofListfile.mp hmem
  obtain ⟨hpath, hending⟩ := Listfile.mem_databases.mp hdatabase
  have hback : databasePath name = path :=
    databasePath_of_friendly (DisplayNames.isOwn_ofNames names) (hpaths.client id path hpath hending) hname
  have hid : (Listfile.ofText text).idOf (databasePath name) = id := by
    rw [hback]
    apply Listfile.idOf_eq hpath
    intro other hother
    exact hpaths.own other id path hother hpath hending
  refine ⟨hid, ?_⟩
  intro o t file htable hnone hlistfile hread
  rw [← hid, ← htable]
  exact gives_tableId hnone hlistfile hread

def rackText : String :=
  "5;dbfilesclient/old.db2\n7;dbfilesclient/map.v2.db2\nno entry\n5;dbfilesclient/spelleffect.db2\n9;Icons/Map.blp\n"

def rack : FileTree where
  entries := [("list.csv", .leaf rackText.toUTF8)]
  home := []

theorem entries_rack : (Listfile.ofText rackText).paths.toList =
    [(5, "dbfilesclient/spelleffect.db2"), (7, "dbfilesclient/map.v2.db2"), (9, "Icons/Map.blp")] := by
  decide +kernel

theorem read_rack : rack.read "list.csv" = .ok rackText.toUTF8 := by rfl

theorem path?_rack {id : UInt32} {path : String} : (Listfile.ofText rackText).path? id = some path ↔
    (id, path) ∈ [((5 : UInt32), "dbfilesclient/spelleffect.db2"), (7, "dbfilesclient/map.v2.db2"),
      (9, "Icons/Map.blp")] := by
  rw [← entries_rack]
  exact Listfile.mem_entries.symm

theorem isClientPath_of_all (stem : String) (hslash : '/' ∉ stem.toList) (hback : '\\' ∉ stem.toList)
    (hlower : stem.toList.all (!·.isUpper) = true) : Listfile.IsClientPath ("dbfilesclient/" ++ stem ++ ".db2") := by
  refine ⟨stem, rfl, hslash, hback, ?_⟩
  intro c hc
  simpa using List.all_eq_true.mp hlower c hc

theorem hasClientPaths_rack : (Listfile.ofText rackText).HasClientPaths where
  client id path h hending := by
    rw [path?_rack] at h
    simp only [List.mem_cons, Prod.mk.injEq, List.not_mem_nil, or_false] at h
    rcases h with ⟨-, rfl⟩ | ⟨-, rfl⟩ | ⟨-, rfl⟩
    · exact isClientPath_of_all "spelleffect" (by decide) (by decide) (by decide)
    · exact isClientPath_of_all "map.v2" (by decide) (by decide) (by decide)
    · exact absurd hending (by unfold Listfile.IsDatabase; decide)
  own id other path h hother _ := by
    rw [path?_rack] at h hother
    simp only [List.mem_cons, Prod.mk.injEq, List.not_mem_nil, or_false] at h hother
    rcases h with ⟨rfl, rfl⟩ | ⟨rfl, rfl⟩ | ⟨rfl, rfl⟩ <;> simpa [eq_comm] using hother

def mapDump : DumpOptions where
  table := "MAP.v2"
  build := none
  fileId := none
  listfile := some "list.csv"
  source := ⟨some "defs", none, none, false, false⟩
  padded := false
  plainStrings := false
  outDir := none
  json := false
  check := false

theorem dump_agrees_with_batch_rack : (Listfile.ofText rackText).HasClientPaths ∧
    ("MAP.v2", 7) ∈
      (Plan.ofListfile (.ofText rackText) (.ofNames ["SpellEffect", "Map.V2", "MAP.v2"]) none).tables ∧
    rack.read "list.csv" = .ok rackText.toUTF8 ∧
    (Listfile.ofText rackText).idOf (databasePath "MAP.v2") = 7 ∧ Gives (tableId mapDump) rack 7 := by
  have hmem : ("MAP.v2", 7) ∈
      (Plan.ofListfile (.ofText rackText) (.ofNames ["SpellEffect", "Map.V2", "MAP.v2"]) none).tables := by
    apply Plan.mem_tables_ofListfile.mpr
    refine ⟨"dbfilesclient/map.v2.db2", Listfile.mem_databases.mpr ⟨path?_rack.mpr (by simp), ?_⟩, by decide +kernel⟩
    unfold Listfile.IsDatabase
    decide
  obtain ⟨hid, hdump⟩ := dump_agrees_with_batch rackText _ none hasClientPaths_rack "MAP.v2" 7 hmem
  exact ⟨hasClientPaths_rack, hmem, read_rack, hid, hdump mapDump rack "list.csv" rfl rfl rfl read_rack⟩

end TableLayout
