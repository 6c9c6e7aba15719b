import TableLayout.Proofs.Source.Documents

/-!
# Storing a document

A stored document is a new file of the cache directory, which was made if it was missing. No other file changes, no
directory is lost, and making the directory again does nothing.
-/

namespace TableLayout

open Text

namespace Cache

theorem path_eq_ok {c : Cache} {table path : String} : c.path table = .ok path ↔
    ∃ file, documentFile table = .ok file ∧ Path.folder c.dir ++ file = path := by
  unfold Cache.path documentPath
  rw [map_eq_ok]
  simp only [Path.join_eq]

theorem isEntryName {table file : String} (h : documentFile table = .ok file) : IsEntryName file := by
  have hname := isEntryName_documentFile isDrivePrefix_empty h
  rwa [String.empty_append] at hname

theorem fetch_of_badName {m : Type → Type} [Monad m] [FileSystem m] (c : Cache) (inner : String → m Fetched)
    {table : String} {fault : SourceFault} (h : documentFile table = .error fault) :
    c.fetch inner table = pure ⟨.error fault, []⟩ := by
  unfold fetch path
  rw [documentPath_of_badName h c.dir]

/-- The tree `t'` has the document as `file` in the cache directory at `folder`, which was made in `t`. -/
structure Stores (c : Cache) (t : FileTree) (file : String) (document : ByteArray) (folder : Place)
    (t' : FileTree) : Prop where
  made : (t.createDirectories c.dir).1 = .ok ()
  check : FileTree.checkPath (Path.folder c.dir ++ file) = .ok ()
  short : file.utf8ByteSize ≤ FileTree.longestName
  walk : (t.createDirectories c.dir).2.walkTo (Path.folder c.dir) = .ok folder
  directory : (t.createDirectories c.dir).2.node? folder = some .directory
  free : (t.createDirectories c.dir).2.node? (folder ++ [file]) ≠ some .directory
  put : t' = (t.createDirectories c.dir).2.put (folder ++ [file]) (.file document)

theorem Stores.writes {c : Cache} {t t' : FileTree} {file : String} {document : ByteArray} {folder : Place}
    (h : c.Stores t file document folder t') :
    (t.createDirectories c.dir).2.Writes (Path.folder c.dir) file document folder t' :=
  ⟨h.check, h.short, h.walk, h.directory, h.free, h.put⟩

theorem run_store_eq_ok {c : Cache} {path : String} {document answer : ByteArray} {t t' : FileTree} :
    (c.store path document : StateM FileTree _).run t = (.ok answer, t') ↔
      answer = document ∧ (t.createDirectories c.dir).1 = .ok () ∧
        (t.createDirectories c.dir).2.write path document = .ok t' := by
  unfold store
  constructor
  · intro h
    obtain ⟨_, t₁, hmade, h⟩ := exists_of_run_bind_ok h fun _ => ⟨_, rfl⟩
    obtain ⟨_, t₂, hwrite, hend⟩ := exists_of_run_bind_ok h fun _ => ⟨_, rfl⟩
    cases hend
    rw [FileTree.run_createDirectories] at hmade
    rw [hmade]
    exact ⟨rfl, rfl, FileTree.run_write_eq_ok.mp hwrite⟩
  · intro ⟨hanswer, hmade, hwrite⟩
    have hmade' : (FileSystem.createDirectories c.dir : StateM FileTree _).run t =
        (.ok (), (t.createDirectories c.dir).2) := by
      rw [FileTree.run_createDirectories, ← hmade]
    rw [run_bind_of_run hmade', hanswer]
    dsimp only
    rw [run_bind_of_run (FileTree.run_write_eq_ok.mpr hwrite)]
    rfl

theorem store_eq_ok {c : Cache} {file : String} (hname : IsEntryName file) {document answer : ByteArray}
    {t t' : FileTree} :
    (c.store (Path.folder c.dir ++ file) document : StateM FileTree _).run t = (.ok answer, t') ↔
      answer = document ∧ ∃ folder, c.Stores t file document folder t' := by
  rw [run_store_eq_ok, FileTree.write_eq_ok_iff (Path.isFolder_folder c.dir) hname]
  constructor
  · intro ⟨hanswer, hmade, folder, h⟩
    exact ⟨hanswer, folder, hmade, h.check, h.short, h.walk, h.directory, h.free, h.put⟩
  · intro ⟨hanswer, folder, h⟩
    exact ⟨hanswer, h.made, folder, h.writes⟩

theorem exists_stores {c : Cache} {file : String} (hname : IsEntryName file) {document : ByteArray} {t : FileTree}
    (hok : ((c.store (Path.folder c.dir ++ file) document : StateM FileTree _).run t).1 = .ok document) :
    ∃ folder t', c.Stores t file document folder t' ∧
      (c.store (Path.folder c.dir ++ file) document : StateM FileTree _).run t = (.ok document, t') := by
  obtain ⟨t', hrun⟩ : ∃ t', (c.store (Path.folder c.dir ++ file) document : StateM FileTree _).run t =
      (.ok document, t') := ⟨_, Prod.ext hok rfl⟩
  obtain ⟨-, folder, hstores⟩ := (store_eq_ok hname).mp hrun
  exact ⟨folder, t', hstores, hrun⟩

theorem store_of_directory {c : Cache} {file : String} (hname : IsEntryName file) {t : FileTree} {folder : Place}
    (hmade : t.createDirectories c.dir = (.ok (), t))
    (hcheck : FileTree.checkPath (Path.folder c.dir ++ file) = .ok ())
    (hshort : file.utf8ByteSize ≤ FileTree.longestName)
    (hwalk : t.walkTo (Path.folder c.dir) = .ok folder) (hdirectory : t.node? folder = some .directory)
    (hfree : t.node? (folder ++ [file]) ≠ some .directory) (document : ByteArray) :
    ((c.store (Path.folder c.dir ++ file) document : StateM FileTree _).run t).1 = .ok document := by
  have hstores : c.Stores t file document folder (t.put (folder ++ [file]) (.file document)) := {
    made := by rw [hmade]
    check := hcheck
    short := hshort
    walk := by rw [hmade]; exact hwalk
    directory := by rw [hmade]; exact hdirectory
    free := by rw [hmade]; exact hfree
    put := by rw [hmade] }
  rw [(store_eq_ok hname).mpr ⟨rfl, folder, hstores⟩]

end Cache

/-! ## What is left as it was -/

namespace Cache.Stores
variable {c : Cache} {t t' : FileTree} {file : String} {document : ByteArray} {folder : Place}
  (h : c.Stores t file document folder t')
include h

theorem home : t'.home = t.home := h.writes.home.trans (FileTree.grows_createDirectories t c.dir).home

theorem node? (q : Place) : t'.node? q =
    if q = folder ++ [file] then some (.file document) else (t.createDirectories c.dir).2.node? q :=
  h.writes.node? q

theorem directory_iff (q : Place) :
    t'.node? q = some .directory ↔ (t.createDirectories c.dir).2.node? q = some .directory :=
  h.writes.directory_iff q

theorem directory_kept {q : Place} (hq : t.node? q = some .directory) : t'.node? q = some .directory :=
  (h.directory_iff q).mpr ((FileTree.grows_createDirectories t c.dir).directory hq)

theorem file_iff {q : Place} (hq : q ≠ folder ++ [file]) {content : ByteArray} :
    t'.node? q = some (.file content) ↔ t.node? q = some (.file content) := by
  rw [h.node?, if_neg hq]
  exact (FileTree.grows_createDirectories t c.dir).file_iff

theorem walkTo_kept {front : String} {place : Place} (hwalk : t.walkTo front = .ok place) :
    t'.walkTo front = .ok place :=
  FileTree.walkTo_mono h.home (fun _ => h.directory_kept) hwalk

theorem walkTo_folder : t'.walkTo (Path.folder c.dir) = .ok folder := h.writes.walkTo_kept h.walk

theorem createDirectories_again : t'.createDirectories c.dir = (.ok (), t') :=
  FileTree.createDirectories_again h.made h.home fun q => (h.directory_iff q).mpr

theorem read_iff {file' : String} (hname' : IsEntryName file') {content : ByteArray} :
    t'.read (Path.folder c.dir ++ file') = .ok content ↔
      if file' = file then content = document
      else (t.createDirectories c.dir).2.read (Path.folder c.dir ++ file') = .ok content :=
  h.writes.read_iff (Path.isFolder_folder c.dir) hname'

theorem store_again {file' : String} {document' : ByteArray} {folder' : Place} {t'' : FileTree}
    (hname' : IsEntryName file') (h' : c.Stores t file' document' folder' t'') (next : ByteArray) :
    ((c.store (Path.folder c.dir ++ file') next : StateM FileTree _).run t').1 = .ok next := by
  obtain rfl : folder = folder' := Except.ok.inj (h.walk.symm.trans h'.walk)
  have hfree : t'.node? (folder ++ [file']) ≠ some .directory := by
    rw [ne_eq, h.directory_iff]
    exact h'.free
  exact store_of_directory hname' h.createDirectories_again h'.check h'.short h.walkTo_folder
    ((h.directory_iff folder).mpr h.directory) hfree next

/-- Before it is stored, a document that can be stored is found in the cache or not there. -/
theorem read_before (hname : IsEntryName file) : (∃ copy, t.read (Path.folder c.dir ++ file) = .ok copy) ∨
    t.read (Path.folder c.dir ++ file) = .error .notFound := by
  rcases ((FileTree.createDirectories_spec t c.dir).2 h.made).2 with hsame | hmissing
  · have hwalk := h.walk
    have hdirectory := h.directory
    have hfree := h.free
    rw [hsame] at hwalk hdirectory hfree
    have hplace : t.locate (Path.folder c.dir ++ file) = .ok (folder ++ [file]) :=
      (FileTree.locate_eq_ok_iff (Path.isFolder_folder c.dir) hname).mpr
        ⟨h.check, h.short, folder, hwalk, hdirectory, rfl⟩
    unfold FileTree.read
    rw [hplace]
    cases hnode : t.node? (folder ++ [file]) with
    | none => exact .inr (by simp [bind, Except.bind, hnode])
    | some node =>
      cases node with
      | directory => exact absurd hnode hfree
      | file copy => exact .inl ⟨copy, by simp [bind, Except.bind, hnode]⟩
  · exact .inr (hmissing file hname h.check)

end Cache.Stores

end TableLayout
