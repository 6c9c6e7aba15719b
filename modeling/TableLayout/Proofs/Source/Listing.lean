import Mathlib.Data.List.Nodup
import TableLayout.Proofs.Source.Confined

/-!
# The documents that a directory lists

The tables of a directory are the names in front of the extension `.dbd`, each once. A document that can be fetched is
listed; of the listed names those of letters, digits and underscores can be fetched, and others are refused.
-/

namespace TableLayout

open Text

/-! ## Names in a directory -/

theorem Branch.exists_node? (branch : Branch) : ∃ node, branch.node? [] = some node := by
  cases branch with
  | leaf content => exact ⟨.file content, rfl⟩
  | fork entries => exact ⟨.directory, Entries.node?_nil entries⟩

theorem Entries.mem_names?_iff {entries : Entries} {place : Place} {names : List String}
    (h : entries.names? place = some names) {name : String} :
    name ∈ names ↔ ∃ node, entries.node? (place ++ [name]) = some node := by
  induction place generalizing entries with
  | nil =>
    rw [names?, Option.some.injEq] at h
    rw [← h, List.nil_append, node?_cons]
    have hlookup : (entries.lookup name).isSome = true ↔ name ∈ entries.map (·.1) := by
      rw [List.lookup_isSome_iff, List.mem_map]
      simp only [beq_iff_eq, eq_comm (a := name)]
    rw [← hlookup]
    cases entries.lookup name with
    | none => simp
    | some branch => simpa using branch.exists_node?
  | cons n place ih =>
    rw [names?] at h
    rw [List.cons_append, node?_cons]
    split at h
    · next below hbelow =>
      rw [hbelow, Option.bind_some]
      exact ih h
    · cases h

namespace FileTree

variable {t : FileTree} {dir : String} {names : List String}

/-- A directory that can be listed is the one to which a walk leads, with a slash at the end of its path or without. -/
theorem list_eq_ok (h : t.list dir = .ok names) :
    ∃ place, t.walkTo (Path.folder dir) = .ok place ∧ t.entries.names? place = some names := by
  unfold list at h
  obtain ⟨place, hplace, h⟩ := bind_eq_ok.mp h
  unfold locate at hplace
  obtain ⟨-, -, hwalk⟩ := bind_eq_ok.mp hplace
  refine ⟨place, ?_, ?_⟩
  · rw [walkTo_folder]
    rw [walk_append] at hwalk
    obtain ⟨folder, hfolder, hend⟩ := bind_eq_ok.mp hwalk
    rw [hfolder]
    split at hend
    · rw [walk_singleton] at hend
      have hdirectory := directory_of_enter hend
      unfold enter at hend
      rw [hdirectory] at hend
      exact hend
    · exact hend
  · split at h
    · cases h
    · next hnames =>
      cases h
      exact hnames
    · cases h

theorem nodup_list (h : t.list dir = .ok names) : names.Nodup := by
  obtain ⟨place, -, hnames⟩ := list_eq_ok h
  exact Entries.nodup_names? t.distinct hnames

end FileTree

/-! ## Listed tables -/

theorem tableOfFile?_eq_some {file name : String} :
    tableOfFile? file = some name ↔ name ≠ "" ∧ file = name ++ ".dbd" := by
  have htexts : ∀ stem, file.toList = stem ++ ".dbd".toList ↔ file = String.ofList stem ++ ".dbd" := by
    intro stem
    simp [← String.toList_inj]
  unfold tableOfFile?
  split
  · next h =>
    have hfile := (htexts []).mp (dropEnd?_eq_some.mp h)
    constructor
    · intro e
      cases e
    · rintro ⟨hne, e⟩
      rw [hfile] at e
      exact absurd ((String.append_left_inj ".dbd").mp e).symm hne
  · next stem hne h =>
    have hfile := (htexts stem).mp (dropEnd?_eq_some.mp h)
    rw [Option.some.injEq, hfile, String.append_left_inj]
    constructor
    · rintro rfl
      refine ⟨?_, rfl⟩
      rw [ne_eq, ← String.toList_inj, String.toList_ofList]
      exact hne
    · exact fun e => e.2
  · next h =>
    constructor
    · intro e
      cases e
    · rintro ⟨-, rfl⟩
      rw [String.toList_append, dropEnd?_append] at h
      cases h

theorem mem_listed_iff {entries : List String} {name : String} :
    name ∈ (entries.filterMap tableOfFile?).mergeSort (fun a b => a ≤ b) ↔ name ≠ "" ∧ name ++ ".dbd" ∈ entries := by
  rw [List.mem_mergeSort, List.mem_filterMap]
  simp only [tableOfFile?_eq_some]
  constructor
  · rintro ⟨file, hfile, hne, rfl⟩
    exact ⟨hne, hfile⟩
  · rintro ⟨hne, hfile⟩
    exact ⟨_, hfile, hne, rfl⟩

theorem nodup_listed {entries : List String} (h : entries.Nodup) :
    ((entries.filterMap tableOfFile?).mergeSort fun a b => a ≤ b).Nodup := by
  rw [(List.mergeSort_perm _ _).nodup_iff]
  apply List.Nodup.filterMap _ h
  intro file file' name hname hname'
  rw [Option.mem_def, tableOfFile?_eq_some] at hname hname'
  rw [hname.2, hname'.2]

theorem run_tableNames {t : FileTree} {dir : String} {entries : List String} (h : t.list dir = .ok entries) :
    (tableNames dir : StateM FileTree _).run t =
      (.ok ((entries.filterMap tableOfFile?).mergeSort fun a b => a ≤ b), t) := by
  have hlist : (FileSystem.list dir : StateM FileTree _).run t = (.ok entries, t) := Prod.ext h rfl
  unfold tableNames
  rw [run_bind_of_run hlist]
  rfl

/-! ## Listed and fetched -/

theorem documentFile_of_badChar {name : String} (htrimmed : trimmed name = name) (hne : name ≠ "")
    (h : ¬IsTableName name) : documentFile name = .error (.badName name) := by
  have hlist : name.toList ≠ [] := by simpa using hne
  have htrim : trim name.toList = name.toList := by
    rw [← String.toList_ofList (l := trim name.toList)]
    exact congrArg String.toList htrimmed
  have hall : ¬name.toList.all isNameChar = true := fun hall => h (isTableName_iff.mpr ⟨hlist, hall⟩)
  unfold documentFile
  simp [htrim, hne, hall]

theorem trimmed_of_isTableName {name : String} (h : IsTableName name) : trimmed name = name := by
  have hall : ∀ c ∈ name.toList, isBlank c = false :=
    fun c hc => isBlank_of_isNameChar (List.all_eq_true.mp (isTableName_iff.mp h).2 c hc)
  rw [trimmed, trim_of_no_blank hall, String.ofList_toList]

theorem documentFile_self {name : String} (h : IsTableName name) : documentFile name = .ok (name ++ ".dbd") := by
  have htrimmed := trimmed_of_isTableName h
  rw [documentFile_of_isTableName (htrimmed.symm ▸ h), htrimmed]

/-- The names in a directory where every document can be read. -/
structure FileTree.HasDocuments (t : FileTree) (dir : String) (entries : List String) : Prop where
  listed : t.list dir = .ok entries
  readable : ∀ file ∈ entries, ".dbd".toList <:+ file.toList → ∃ content, t.read (Path.join dir file) = .ok content

section
variable {t : FileTree} {dir name : String} {content : ByteArray}

theorem fetch_directory_eq_ok (hname : documentFile name = .ok (name ++ ".dbd")) :
    (((Origin.directory dir).fetch name : StateM FileTree Fetched).run t).1.outcome = .ok content ↔
      t.read (Path.join dir (name ++ ".dbd")) = .ok content := by
  have hpath : (Origin.directory dir).path? name = some (Path.join dir (name ++ ".dbd")) := by
    rw [Origin.path?_directory dir hname, String.empty_append, Path.join_eq]
  rw [← toOption_eq_some, ((Origin.directory dir).run_fetch name t).2, hpath, Option.bind_some, toOption_eq_some]

theorem FileTree.mem_list_of_read {entries : List String} {file : String} (h : t.list dir = .ok entries)
    (hfile : IsEntryName file) (hread : t.read (Path.join dir file) = .ok content) : file ∈ entries := by
  obtain ⟨place, hplace, hnames⟩ := list_eq_ok h
  rw [Path.join_eq] at hread
  obtain ⟨-, -, place', hplace', hnode⟩ := (read_eq_ok_iff (Path.isFolder_folder dir) hfile).mp hread
  obtain rfl : place = place' := Except.ok.inj (hplace.symm.trans hplace')
  exact (Entries.mem_names?_iff hnames).mpr ⟨_, hnode⟩

/-- Listing and fetching agree on the names that a table can have. In a directory whose documents can be read, a listed
name of letters, digits and underscores is fetched with the content of its document; any other listed name with no white
space around it is refused for its characters. A name with no white space around it that can be fetched is listed
once. -/
theorem listing_agrees_with_fetching {entries : List String} (h : t.HasDocuments dir entries) : ∃ names,
    (tableNames dir : StateM FileTree _).run t = (.ok names, t) ∧
    (∀ name ∈ names, IsTableName name → ∃ content, t.read (Path.join dir (name ++ ".dbd")) = .ok content ∧
      (((Origin.directory dir).fetch name : StateM FileTree Fetched).run t).1.outcome = .ok content) ∧
    (∀ name ∈ names, trimmed name = name → ¬IsTableName name →
      (((Origin.directory dir).fetch name : StateM FileTree Fetched).run t).1.outcome = .error (.badName name)) ∧
    ∀ name content, trimmed name = name →
      (((Origin.directory dir).fetch name : StateM FileTree Fetched).run t).1.outcome = .ok content →
      names.count name = 1 := by
  refine ⟨_, run_tableNames h.listed, ?_, ?_, ?_⟩
  · intro name hname hword
    have hextension : ".dbd".toList <:+ (name ++ ".dbd").toList := by
      rw [String.toList_append]
      exact List.suffix_append _ _
    obtain ⟨content, hread⟩ := h.readable _ (mem_listed_iff.mp hname).2 hextension
    exact ⟨content, hread, (fetch_directory_eq_ok (documentFile_self hword)).mpr hread⟩
  · intro name hname htrimmed hword
    rw [Origin.fetch_of_badName _ (documentFile_of_badChar htrimmed (mem_listed_iff.mp hname).1 hword)]
    rfl
  · intro name content htrimmed hfetch
    have hword : IsTableName name := by
      by_contra hword
      obtain ⟨fault, hfault⟩ := documentFile_of_not_isTableName (htrimmed.symm ▸ hword)
      rw [Origin.fetch_of_badName _ hfault] at hfetch
      cases hfetch
    have hfile := documentFile_self hword
    have hread := (fetch_directory_eq_ok hfile).mp hfetch
    have hmem := FileTree.mem_list_of_read h.listed (Cache.isEntryName hfile) hread
    exact List.count_eq_one_of_mem (nodup_listed (FileTree.nodup_list h.listed)) (mem_listed_iff.mpr ⟨hword.1, hmem⟩)

def drawer : FileTree where
  entries := [("defs", .fork [("A-B.dbd", .leaf ⟨#[1]⟩), ("Map.dbd", .leaf ⟨#[2]⟩), ("README.md", .leaf ⟨#[]⟩)])]
  home := []

theorem hasDocuments_drawer : drawer.HasDocuments "defs" ["A-B.dbd", "Map.dbd", "README.md"] where
  listed := by decide +kernel
  readable := by
    intro file hfile hextension
    simp only [List.mem_cons, List.not_mem_nil, or_false] at hfile
    rcases hfile with rfl | rfl | rfl
    · exact ⟨⟨#[1]⟩, by decide +kernel⟩
    · exact ⟨⟨#[2]⟩, by decide +kernel⟩
    · exact absurd hextension (by decide)

theorem run_tableNames_drawer :
    (tableNames "defs" : StateM FileTree _).run drawer = (.ok ["A-B", "Map"], drawer) := by
  have hnames : ["A-B.dbd", "Map.dbd", "README.md"].filterMap tableOfFile? = ["A-B", "Map"] := by decide
  rw [run_tableNames hasDocuments_drawer.listed, hnames, List.mergeSort_of_pairwise (by decide)]

theorem listing_agrees_with_fetching_drawer :
    drawer.HasDocuments "defs" ["A-B.dbd", "Map.dbd", "README.md"] ∧
    (((Origin.directory "defs").fetch "Map" : StateM FileTree Fetched).run drawer).1.outcome = .ok ⟨#[2]⟩ ∧
    ∀ name content, trimmed name = name →
      (((Origin.directory "defs").fetch name : StateM FileTree Fetched).run drawer).1.outcome = .ok content →
      ["A-B", "Map"].count name = 1 := by
  obtain ⟨names, hrun, hfetched, -, hlisted⟩ := listing_agrees_with_fetching hasDocuments_drawer
  rw [run_tableNames_drawer] at hrun
  cases hrun
  obtain ⟨content, hread, hfetch⟩ := hfetched "Map" (by decide) (by decide)
  have hmap : drawer.read (Path.join "defs" ("Map" ++ ".dbd")) = .ok ⟨#[2]⟩ := by decide +kernel
  obtain rfl : (⟨#[2]⟩ : ByteArray) = content := Except.ok.inj (hmap.symm.trans hread)
  exact ⟨hasDocuments_drawer, hfetch, hlisted⟩

/-- A name with a hyphen is listed and refused. -/
theorem listed_name_refused : drawer.HasDocuments "defs" ["A-B.dbd", "Map.dbd", "README.md"] ∧
    (tableNames "defs" : StateM FileTree _).run drawer = (.ok ["A-B", "Map"], drawer) ∧
    (((Origin.directory "defs").fetch "A-B" : StateM FileTree Fetched).run drawer).1.outcome =
      .error (.badName "A-B") := by
  have hword : ¬IsTableName "A-B" := by decide
  refine ⟨hasDocuments_drawer, run_tableNames_drawer, ?_⟩
  rw [Origin.fetch_of_badName _ (documentFile_of_badChar (by decide) (by decide) hword)]
  rfl

end

end TableLayout
