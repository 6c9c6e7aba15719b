import TableLayout.Program.Output
import TableLayout.Proofs.Files.Folders

/-!
# Output files as they are checked and written

A check reads one file after another and changes none. Writing makes the directory and puts each file into it; what
is put later leaves the files before it as they are, so that in the end each has its text, and writing once more
changes nothing.
-/

namespace TableLayout

open Text

/-! ## Checking -/

theorem run_checkOutput (path text : String) (t : FileTree) : ∃ outcome,
    (checkOutput path text : StateM FileTree _).run t = (outcome, t) ∧
      (outcome = .ok () ↔ t.read path = .ok text.toUTF8) := by
  obtain ⟨found, hrun, hfound⟩ := FileTree.run_readText path t
  rw [← hfound text]
  unfold checkOutput
  rw [run_bind_of_run hrun]
  cases found with
  | error error => exact ⟨.error (.readExisting path error), rfl, by simp⟩
  | ok current =>
    refine ⟨_, rfl, ?_⟩
    by_cases hsame : current = text
    · simp [hsame]
    · simp [hsame]

theorem run_check (files : List (String × String)) (t : FileTree) : ∃ outcome,
    (forOutputs checkOutput files : StateM FileTree _).run t = (outcome, t) ∧
      (outcome = .ok () ↔ ∀ file ∈ files, t.read file.1 = .ok file.2.toUTF8) := by
  induction files with
  | nil => exact ⟨.ok (), rfl, by simp⟩
  | cons file files ih =>
    obtain ⟨first, hfirst, hread⟩ := run_checkOutput file.1 file.2 t
    obtain ⟨outcome, hrun, hrest⟩ := ih
    rw [List.forall_mem_cons, ← hread]
    unfold forOutputs
    rw [run_bind_of_run hfirst]
    cases first with
    | error fault => exact ⟨.error fault, rfl, by simp⟩
    | ok done =>
      cases done
      exact ⟨outcome, hrun, by simp [hrest]⟩

/-! ## Writing one file -/

section
variable {t t' : FileTree} {path text : String}

theorem run_prepareDirectory_eq_ok : (prepareDirectory path : StateM FileTree _).run t = (.ok (), t') ↔
    Path.parent? path = none ∧ t' = t ∨
      ∃ parent, Path.parent? path = some parent ∧ t.createDirectories parent = (.ok (), t') := by
  unfold prepareDirectory
  cases Path.parent? path with
  | none =>
    show ((Except.ok (), t) : Except OutputFault Unit × FileTree) = (.ok (), t') ↔ _
    simp [eq_comm]
  | some parent =>
    constructor
    · intro h
      obtain ⟨_, _, hmade, hend⟩ := exists_of_run_bind_ok h fun _ => ⟨_, rfl⟩
      cases hend
      exact .inr ⟨parent, rfl, hmade⟩
    · intro h
      rcases h with ⟨hnone, -⟩ | ⟨_, hparent, hmade⟩
      · cases hnone
      · cases hparent
        exact run_bind_of_run ((FileTree.run_createDirectories parent t).trans hmade)

/-- Preparing a directory only makes directories, and makes none where those are kept. -/
theorem prepared_of_run (h : (prepareDirectory path : StateM FileTree _).run t = (.ok (), t')) :
    FileTree.Grows t t' ∧ ∀ s : FileTree, s.home = t.home →
      (∀ q, t'.node? q = some .directory → s.node? q = some .directory) →
        (prepareDirectory path : StateM FileTree _).run s = (.ok (), s) := by
  simp only [run_prepareDirectory_eq_ok] at h ⊢
  rcases h with ⟨hnone, rfl⟩ | ⟨parent, hparent, hmade⟩
  · exact ⟨FileTree.Grows.refl t', fun s _ _ => .inl ⟨hnone, trivial⟩⟩
  · have hgrows := FileTree.grows_createDirectories t parent
    rw [hmade] at hgrows
    refine ⟨hgrows, ?_⟩
    intro s hhome hkept
    refine .inr ⟨parent, hparent, ?_⟩
    -- for `s` and not for the tree just made, as a file is written in between
    apply FileTree.createDirectories_again (t := t) (by rw [hmade]) hhome
    rw [hmade]
    exact hkept

theorem run_writeOutput_eq_ok : (writeOutput path text : StateM FileTree _).run t = (.ok (), t') ↔
    ∃ prepared, (prepareDirectory path : StateM FileTree _).run t = (.ok (), prepared) ∧
      prepared.write path text.toUTF8 = .ok t' := by
  unfold writeOutput
  constructor
  · intro h
    obtain ⟨_, prepared, hprepare, h⟩ := exists_of_run_bind_ok h fun _ => ⟨_, rfl⟩
    obtain ⟨_, _, hwrite, hend⟩ := exists_of_run_bind_ok h fun _ => ⟨_, rfl⟩
    cases hend
    exact ⟨prepared, hprepare, FileTree.run_write_eq_ok.mp hwrite⟩
  · intro ⟨prepared, hprepare, hwrite⟩
    rw [run_bind_of_run hprepare]
    exact run_bind_of_run (FileTree.run_write_eq_ok.mpr hwrite)

end

/-- The output file has its text, and there is no directory to be made for it. -/
structure Delivered (t : FileTree) (path text : String) : Prop where
  prepared : (prepareDirectory path : StateM FileTree _).run t = (.ok (), t)
  content : t.read path = .ok text.toUTF8

section
variable {t t' : FileTree} {front name text : String} (hfront : Path.IsFolder front) (hname : IsEntryName name)
include hfront hname

theorem delivered_of_run (h : (writeOutput (front ++ name) text : StateM FileTree _).run t = (.ok (), t')) :
    Delivered t' (front ++ name) text := by
  obtain ⟨prepared, hprepare, hwrite⟩ := run_writeOutput_eq_ok.mp h
  obtain ⟨folder, hwrites⟩ := (FileTree.write_eq_ok_iff hfront hname).mp hwrite
  obtain ⟨hgrows, hagain⟩ := prepared_of_run hprepare
  constructor
  · exact hagain t' (hwrites.home.trans hgrows.home) fun q => (hwrites.directory_iff q).mpr
  · rw [hwrites.read_iff hfront hname, if_pos rfl]

theorem Delivered.kept (hd : Delivered t (front ++ name) text) {other text' : String} (hother : IsEntryName other)
    (hne : name ≠ other) (h : (writeOutput (front ++ other) text' : StateM FileTree _).run t = (.ok (), t')) :
    Delivered t' (front ++ name) text := by
  obtain ⟨prepared, hprepare, hwrite⟩ := run_writeOutput_eq_ok.mp h
  obtain ⟨folder, hwrites⟩ := (FileTree.write_eq_ok_iff hfront hother).mp hwrite
  have hgrows := (prepared_of_run hprepare).1
  constructor
  · apply (prepared_of_run hd.prepared).2 t' (hwrites.home.trans hgrows.home)
    intro q hq
    exact (hwrites.directory_iff q).mpr (hgrows.directory hq)
  · rw [hwrites.read_iff hfront hname, if_neg hne]
    exact hgrows.read hfront hname hd.content

theorem Delivered.run_again (h : Delivered t (front ++ name) text) :
    (writeOutput (front ++ name) text : StateM FileTree _).run t = (.ok (), t) :=
  run_writeOutput_eq_ok.mpr ⟨t, h.prepared, FileTree.write_self hfront hname h.content⟩

end

/-! ## Writing several files -/

theorem run_forOutputs_cons {act : String → String → StateM FileTree (Except OutputFault Unit)} {path text : String}
    {rest : List (String × String)} {t t' : FileTree} : (forOutputs act ((path, text) :: rest)).run t = (.ok (), t') ↔
      ∃ next, (act path text).run t = (.ok (), next) ∧ (forOutputs act rest).run next = (.ok (), t') := by
  rw [forOutputs]
  constructor
  · intro h
    obtain ⟨_, next, hact, hrest⟩ := exists_of_run_bind_ok h fun _ => ⟨_, rfl⟩
    exact ⟨next, hact, hrest⟩
  · intro ⟨next, hact, hrest⟩
    rw [run_bind_of_run hact]
    exact hrest

def inFolder (front : String) (files : List (String × String)) : List (String × String) :=
  files.map fun file => (front ++ file.1, file.2)

section
variable {t t' : FileTree} {front : String} (hfront : Path.IsFolder front) {files : List (String × String)}
  (hnames : ∀ file ∈ files, IsEntryName file.1)
include hfront hnames

theorem Delivered.run {name text : String} (hname : IsEntryName name) (hother : ∀ file ∈ files, name ≠ file.1)
    (hd : Delivered t (front ++ name) text)
    (h : (forOutputs writeOutput (inFolder front files) : StateM FileTree _).run t = (.ok (), t')) :
    Delivered t' (front ++ name) text := by
  induction files generalizing t with
  | nil =>
    cases h
    exact hd
  | cons file files ih =>
    rw [List.forall_mem_cons] at hnames hother
    obtain ⟨next, hfirst, hrest⟩ := run_forOutputs_cons.mp h
    exact ih hnames.2 hother.2 (hd.kept hfront hname hnames.1 hother.1 hfirst) hrest

/-- After a run over files of different names, each has its text. -/
theorem delivered_of_run_all (hdistinct : (files.map (·.1)).Nodup)
    (h : (forOutputs writeOutput (inFolder front files) : StateM FileTree _).run t = (.ok (), t')) :
    ∀ file ∈ files, Delivered t' (front ++ file.1) file.2 := by
  induction files generalizing t with
  | nil => simp
  | cons file files ih =>
    rw [List.forall_mem_cons] at hnames
    rw [List.map_cons, List.nodup_cons] at hdistinct
    obtain ⟨next, hfirst, hrest⟩ := run_forOutputs_cons.mp h
    rw [List.forall_mem_cons]
    refine ⟨?_, ih hnames.2 hdistinct.2 hrest⟩
    -- the first file has its text after its own step, and the later files have other names
    have hother : ∀ later ∈ files, file.1 ≠ later.1 := by
      intro later hlater heq
      exact hdistinct.1 (heq ▸ List.mem_map_of_mem hlater)
    exact (delivered_of_run hfront hnames.1 hfirst).run hfront hnames.2 hnames.1 hother hrest

theorem run_again_of_delivered (hd : ∀ file ∈ files, Delivered t (front ++ file.1) file.2) :
    (forOutputs writeOutput (inFolder front files) : StateM FileTree _).run t = (.ok (), t) := by
  induction files with
  | nil => rfl
  | cons file files ih =>
    rw [List.forall_mem_cons] at hnames hd
    exact run_forOutputs_cons.mpr ⟨t, hd.1.run_again hfront hnames.1, ih hnames.2 hd.2⟩

end

/-! ## The three files -/

def outputTexts (all : List Artifacts) : List (String × String) :=
  [("structures.h", (joinArtifacts all).record), ("metadata.h", (joinArtifacts all).metadata),
   ("loadinfo.h", (joinArtifacts all).loadInfo)]

theorem outputs_eq (dir : String) (all : List Artifacts) :
    outputs dir all = inFolder (Path.folder dir) (outputTexts all) := by
  simp only [outputs, inFolder, outputTexts, List.map_cons, List.map_nil, Path.join_eq]

theorem isEntryName_outputTexts (all : List Artifacts) : ∀ file ∈ outputTexts all, IsEntryName file.1 := by
  have hnames : ∀ name ∈ ["structures.h", "metadata.h", "loadinfo.h"], IsEntryName name := by
    intro name hname
    simp only [List.mem_cons, List.not_mem_nil, or_false] at hname
    rcases hname with rfl | rfl | rfl <;> exact ⟨by decide, by decide, by decide, by decide⟩
  intro file hfile
  exact hnames file.1 (List.mem_map_of_mem hfile)

theorem nodup_outputTexts (all : List Artifacts) : ((outputTexts all).map (·.1)).Nodup := by
  simp [outputTexts]

theorem run_checkArtifacts (dir : String) (all : List Artifacts) (t : FileTree) : ∃ outcome,
    (checkArtifacts dir all : StateM FileTree _).run t = (outcome, t) ∧
      (outcome = .ok () ↔ ∀ file ∈ outputTexts all, t.read (Path.folder dir ++ file.1) = .ok file.2.toUTF8) := by
  obtain ⟨outcome, hrun, hok⟩ := run_check (outputs dir all) t
  refine ⟨outcome, hrun, ?_⟩
  rw [hok, outputs_eq, inFolder, List.forall_mem_map]

theorem delivered_of_writeArtifacts {dir : String} {all : List Artifacts} {t t' : FileTree}
    (h : (writeArtifacts dir all : StateM FileTree _).run t = (.ok (), t')) :
    ∀ file ∈ outputTexts all, Delivered t' (Path.folder dir ++ file.1) file.2 := by
  unfold writeArtifacts at h
  rw [outputs_eq] at h
  exact delivered_of_run_all (Path.isFolder_folder dir) (isEntryName_outputTexts all) (nodup_outputTexts all) h

theorem Artifacts.eq_iff {a b : Artifacts} :
    a = b ↔ a.record = b.record ∧ a.metadata = b.metadata ∧ a.loadInfo = b.loadInfo := by
  cases a
  cases b
  simp

theorem outputTexts_kept {all other : List Artifacts} {dir : String} {t : FileTree}
    (h : ∀ file ∈ outputTexts all, t.read (Path.folder dir ++ file.1) = .ok file.2.toUTF8) :
    (∀ file ∈ outputTexts other, t.read (Path.folder dir ++ file.1) = .ok file.2.toUTF8) ↔
      joinArtifacts other = joinArtifacts all := by
  simp only [outputTexts, List.forall_mem_cons, List.not_mem_nil, false_implies, implies_true, and_true] at h ⊢
  obtain ⟨hrecord, hmetadata, hloadInfo⟩ := h
  rw [hrecord, hmetadata, hloadInfo]
  simp only [Except.ok.injEq, toUTF8_inj, Artifacts.eq_iff, eq_comm]

/-- A check changes no file, and succeeds exactly if the three files have their texts. After the files are written, a
check succeeds exactly for artifacts with the same texts, and writing them again changes nothing. -/
theorem written_checks (dir : String) :
    (∀ (all : List Artifacts) (t : FileTree),
      ((checkArtifacts dir all : StateM FileTree _).run t).2 = t ∧
      (((checkArtifacts dir all : StateM FileTree _).run t).1 = .ok () ↔
        t.read (Path.join dir "structures.h") = .ok (joinArtifacts all).record.toUTF8 ∧
        t.read (Path.join dir "metadata.h") = .ok (joinArtifacts all).metadata.toUTF8 ∧
        t.read (Path.join dir "loadinfo.h") = .ok (joinArtifacts all).loadInfo.toUTF8)) ∧
    ∀ (all : List Artifacts) (t t' : FileTree), (writeArtifacts dir all : StateM FileTree _).run t = (.ok (), t') →
      (∀ other : List Artifacts, ((checkArtifacts dir other : StateM FileTree _).run t').1 = .ok () ↔
        joinArtifacts other = joinArtifacts all) ∧
      (writeArtifacts dir all : StateM FileTree _).run t' = (.ok (), t') := by
  constructor
  · intro all t
    obtain ⟨outcome, hrun, hok⟩ := run_checkArtifacts dir all t
    rw [hrun]
    refine ⟨rfl, hok.trans ?_⟩
    simp only [outputTexts, List.forall_mem_cons, List.not_mem_nil, false_implies, implies_true, and_true,
      Path.join_eq]
  · intro all t t' h
    have hdelivered := delivered_of_writeArtifacts h
    constructor
    · intro other
      obtain ⟨outcome, hrun, hok⟩ := run_checkArtifacts dir other t'
      rw [hrun]
      exact hok.trans (outputTexts_kept fun file hfile => (hdelivered file hfile).content)
    · unfold writeArtifacts
      rw [outputs_eq]
      exact run_again_of_delivered (Path.isFolder_folder dir) (isEntryName_outputTexts all) hdelivered

def outTree : FileTree where
  entries := [("out", .fork [("structures.h", .leaf ⟨#[0xFF]⟩), ("notes", .leaf ⟨#[0x41]⟩)])]
  home := []

def outArtifacts : List Artifacts := [⟨"struct Größe;", "", "x\n"⟩, ⟨"", "", "y"⟩]

def outTree' : FileTree where
  entries :=
    [("out", .fork [("structures.h", .leaf "struct Größe;\n".toUTF8), ("notes", .leaf ⟨#[0x41]⟩),
      ("metadata.h", .leaf "\n".toUTF8), ("loadinfo.h", .leaf "x\n\ny".toUTF8)])]
  home := []

theorem written_checks_outTree :
    (writeArtifacts "out" outArtifacts : StateM FileTree _).run outTree = (.ok (), outTree') ∧
      (writeArtifacts "out" outArtifacts : StateM FileTree _).run outTree' = (.ok (), outTree') ∧
      ((checkArtifacts "out" [] : StateM FileTree _).run outTree').1 ≠ .ok () := by
  have hwrite : (writeArtifacts "out" outArtifacts : StateM FileTree _).run outTree = (.ok (), outTree') := by rfl
  obtain ⟨hcheck, hagain⟩ := (written_checks "out").2 outArtifacts outTree outTree' hwrite
  refine ⟨hwrite, hagain, ?_⟩
  rw [ne_eq, hcheck]
  decide +kernel

end TableLayout
