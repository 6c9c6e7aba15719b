import TableLayout.Proofs.Batch
import TableLayout.Proofs.Source.Stored

/-!
# A cache does not show

A cache whose copies are the documents of its origin answers as the origin does, and stays one: what it stores is the
document itself. A batch through it therefore has the outcomes of a batch without it.
-/

namespace TableLayout

open Text

/-- The document of a table as the origin has it among the files of a tree. -/
def Origin.document? (o : Origin) (t : FileTree) (table : String) : Option ByteArray :=
  ((o.fetch table : StateM FileTree Fetched).run t).1.outcome.toOption

namespace Cache

/-- Every copy in the cache directory is the document of its table. The copies are those that are found once the
directory is made, as the way to it may lead through directories that are missing. -/
def Coherent (c : Cache) (o : Origin) (t : FileTree) : Prop :=
  ∀ table path copy, c.path table = .ok path → (t.createDirectories c.dir).2.read path = .ok copy →
    o.document? t table = some copy

/-- Every document can be stored: the cache directory can be made, and the file written. -/
def Storable (c : Cache) (o : Origin) (t : FileTree) : Prop :=
  ∀ table path document, c.path table = .ok path → o.document? t table = some document →
    ((c.store path document : StateM FileTree _).run t).1 = .ok document

end Cache

/-! ## Documents -/

namespace Origin
variable {o : Origin} {t t' : FileTree} {table : String} {document : ByteArray}

theorem document?_eq (o : Origin) (t : FileTree) (table : String) :
    o.document? t table = (o.path? table).bind fun path => (t.read path).toOption :=
  (o.run_fetch table t).2

theorem document?_of_badName {fault : SourceFault} (h : documentFile table = .error fault) (t : FileTree) :
    o.document? t table = none := by
  rw [document?_eq, path?_of_badName o h, Option.bind_none]

theorem document?_congr {table' file : String} (h : documentFile table = .ok file)
    (h' : documentFile table' = .ok file) (t : FileTree) : o.document? t table = o.document? t table' := by
  rw [document?_eq, document?_eq]
  rcases o.path?_cases with hnone | ⟨front, pre, -, -, hpath⟩
  · rw [hnone, hnone]
  · rw [hpath, hpath, h, h']

theorem document?_stored {c : Cache} {file : String} {folder : Place} (h : c.Stores t file document folder t')
    (hfile : documentFile table = .ok file) (hdocument : o.document? t table = some document) (table' : String) :
    o.document? t' table' = o.document? t table' := by
  rw [document?_eq] at hdocument ⊢
  rw [document?_eq]
  rcases o.path?_cases with hnone | ⟨front, pre, hfront, hpre, hpath⟩
  · rw [hnone table']
    rfl
  · cases hfile' : documentFile table' with
    | error fault => rw [path?_of_badName o hfile']; rfl
    | ok file' =>
      rw [hpath, hfile] at hdocument
      rw [hpath, hfile']
      have hname := isEntryName_documentFile hpre hfile
      have hname' := isEntryName_documentFile hpre hfile'
      -- the folder of the origin is there, as it has the document
      have hread := toOption_eq_some.mp hdocument
      obtain ⟨-, -, place, hwalk, hnode⟩ := (FileTree.read_eq_ok_iff hfront hname).mp hread
      have hwalk' := h.walkTo_kept hwalk
      have hsame : ∀ content, t'.node? (place ++ [pre ++ file']) = some (.file content) ↔
          t.node? (place ++ [pre ++ file']) = some (.file content) := by
        intro content
        by_cases hq : place ++ [pre ++ file'] = folder ++ [file]
        · obtain ⟨rfl, hlast⟩ := List.append_inj' hq rfl
          obtain ⟨rfl, rfl⟩ := eq_of_prefixed_eq hpre hfile (List.singleton_inj.mp hlast)
          rw [hnode, hq, h.node?, if_pos rfl]
        · exact h.file_iff hq
      apply Option.ext
      intro content
      show (t'.read (front ++ (pre ++ file'))).toOption = some content ↔
        (t.read (front ++ (pre ++ file'))).toOption = some content
      rw [toOption_eq_some, toOption_eq_some, FileTree.read_eq_ok_iff hfront hname',
        FileTree.read_eq_ok_iff hfront hname']
      simp only [hwalk, hwalk', Except.ok.injEq, exists_eq_left', hsame]

end Origin

/-! ## The invariant -/

namespace Cache
variable {c : Cache} {o : Origin} {t t' : FileTree} {table file : String} {document : ByteArray} {folder : Place}

theorem Storable.stores (h : c.Storable o t) (hfile : documentFile table = .ok file)
    (hdocument : o.document? t table = some document) : ∃ folder t', c.Stores t file document folder t' ∧
      (c.store (Path.folder c.dir ++ file) document : StateM FileTree _).run t = (.ok document, t') :=
  exists_stores (isEntryName hfile) (h table _ document (path_eq_ok.mpr ⟨file, hfile, rfl⟩) hdocument)

section
variable (h : c.Stores t file document folder t') (hfile : documentFile table = .ok file)
  (hdocument : o.document? t table = some document)
include h hfile hdocument

theorem Coherent.stored (hcoherent : c.Coherent o t) : c.Coherent o t' := by
  intro table' path copy hpath hread
  obtain ⟨file', hfile', rfl⟩ := path_eq_ok.mp hpath
  rw [h.createDirectories_again, h.read_iff (isEntryName hfile')] at hread
  rw [Origin.document?_stored h hfile hdocument]
  by_cases heq : file' = file
  · subst heq
    rw [if_pos rfl] at hread
    rw [Origin.document?_congr hfile' hfile, hdocument, hread]
  · rw [if_neg heq] at hread
    exact hcoherent table' _ copy (path_eq_ok.mpr ⟨file', hfile', rfl⟩) hread

theorem Storable.stored (hstorable : c.Storable o t) : c.Storable o t' := by
  intro table' path document' hpath hdocument'
  obtain ⟨file', hfile', rfl⟩ := path_eq_ok.mp hpath
  rw [Origin.document?_stored h hfile hdocument] at hdocument'
  obtain ⟨folder', t'', h', -⟩ := hstorable.stores hfile' hdocument'
  exact h.store_again (isEntryName hfile') h' document'

end

theorem coherent_iff_of_directory (hcheck : c.dir ≠ "" → FileTree.checkPath c.dir = .ok ())
    (hwalk : t.walkTo (Path.folder c.dir) = .ok folder) (hfolder : t.node? folder = some .directory) :
    c.Coherent o t ↔ ∀ table path copy, c.path table = .ok path → t.read path = .ok copy →
      o.document? t table = some copy := by
  unfold Coherent
  rw [FileTree.createDirectories_of_walkTo hcheck hwalk hfolder]

theorem Coherent.of_read (hcoherent : c.Coherent o t) (hfile : documentFile table = .ok file) {copy : ByteArray}
    (hread : t.read (Path.folder c.dir ++ file) = .ok copy) : o.document? t table = some copy := by
  apply hcoherent table _ copy (path_eq_ok.mpr ⟨file, hfile, rfl⟩)
  exact (FileTree.grows_createDirectories t c.dir).read (Path.isFolder_folder c.dir) (isEntryName hfile) hread

/-! ## Fetching -/

/-- The documents are those of `t`, the copies are among them, and they can be stored. -/
structure Holds (c : Cache) (o : Origin) (t t' : FileTree) : Prop where
  same : ∀ table, o.document? t' table = o.document? t table
  coherent : c.Coherent o t'
  storable : c.Storable o t'

theorem run_fetch_eq (o : Origin) (table : String) (t : FileTree) : ∃ outcome notices,
    (o.fetch table : StateM FileTree Fetched).run t = (⟨outcome, notices⟩, t) ∧
      outcome.toOption = o.document? t table := by
  obtain ⟨hstate, -⟩ := o.run_fetch table t
  unfold Origin.document?
  cases hrun : (o.fetch table : StateM FileTree Fetched).run t with
  | mk fetched t' =>
    obtain ⟨outcome, notices⟩ := fetched
    rw [hrun] at hstate
    exact ⟨outcome, notices, by rw [← hstate], rfl⟩

theorem run_fill_of_none (h : o.document? t table = none) (path : String) :
    ((c.fill o.fetch table path : StateM FileTree Fetched).run t).1.outcome.toOption = none ∧
      ((c.fill o.fetch table path : StateM FileTree Fetched).run t).2 = t := by
  obtain ⟨outcome, notices, hrun, houtcome⟩ := run_fetch_eq o table t
  rw [h] at houtcome
  unfold fill
  dsimp only
  rw [run_bind_of_run hrun]
  cases outcome with
  | error fault => exact ⟨rfl, rfl⟩
  | ok answer => cases houtcome

theorem run_fill_of_some (h : o.document? t table = some document) {path : String}
    (hstore : (c.store path document : StateM FileTree _).run t = (.ok document, t')) :
    ((c.fill o.fetch table path : StateM FileTree Fetched).run t).1.outcome.toOption = some document ∧
      ((c.fill o.fetch table path : StateM FileTree Fetched).run t).2 = t' := by
  obtain ⟨outcome, notices, hrun, houtcome⟩ := run_fetch_eq o table t
  rw [h] at houtcome
  unfold fill
  dsimp only
  rw [run_bind_of_run hrun]
  cases outcome with
  | error fault => cases houtcome
  | ok answer =>
    cases houtcome
    dsimp only
    rw [run_bind_of_run hstore]
    exact ⟨rfl, rfl⟩

theorem run_fetch_of_badName {fault : SourceFault} (h : documentFile table = .error fault) (t : FileTree) :
    ((c.fetch o.fetch table : StateM FileTree Fetched).run t).1.outcome.toOption = none ∧
      ((c.fetch o.fetch table : StateM FileTree Fetched).run t).2 = t := by
  rw [c.fetch_of_badName o.fetch h]
  exact ⟨rfl, rfl⟩

/-- What the cache does with a good name: it answers with the copy, or asks the origin if there is none or none may be
used, or fails if the copy cannot be read. -/
theorem run_fetch_of_file (hfile : documentFile table = .ok file) (t : FileTree) :
    (c.fetch o.fetch table : StateM FileTree Fetched).run t =
        (c.fill o.fetch table (Path.folder c.dir ++ file) : StateM FileTree Fetched).run t ∨
    (∃ copy, t.read (Path.folder c.dir ++ file) = .ok copy ∧
      ((c.fetch o.fetch table : StateM FileTree Fetched).run t).1.outcome.toOption = some copy ∧
      ((c.fetch o.fetch table : StateM FileTree Fetched).run t).2 = t) ∨
    ∃ error, error ≠ .notFound ∧ t.read (Path.folder c.dir ++ file) = .error error ∧
      ((c.fetch o.fetch table : StateM FileTree Fetched).run t).1.outcome.toOption = none ∧
      ((c.fetch o.fetch table : StateM FileTree Fetched).run t).2 = t := by
  have hpath : c.path table = .ok (Path.folder c.dir ++ file) := path_eq_ok.mpr ⟨file, hfile, rfl⟩
  unfold Cache.fetch
  rw [hpath]
  dsimp only
  by_cases hrefresh : c.refresh = true
  · rw [if_pos hrefresh]
    exact .inl rfl
  · rw [if_neg hrefresh, run_bind_of_run (FileTree.run_read _ t)]
    cases hcopy : t.read (Path.folder c.dir ++ file) with
    | ok copy => exact .inr (.inl ⟨copy, rfl, rfl, rfl⟩)
    | error error =>
      by_cases hmiss : error = .notFound
      · subst hmiss
        exact .inl rfl
      · refine .inr (.inr ⟨error, hmiss, rfl, ?_⟩)
        cases error with
        | notFound => exact absurd rfl hmiss
        | _ => exact ⟨rfl, rfl⟩

/-- One request: the answer is the document, and the tree is left with the same documents and with copies of them. -/
theorem Holds.fetch (h : c.Holds o t t') (table : String) :
    ((c.fetch o.fetch table : StateM FileTree Fetched).run t').1.outcome.toOption = o.document? t table ∧
      c.Holds o t ((c.fetch o.fetch table : StateM FileTree Fetched).run t').2 := by
  rw [← h.same table]
  cases hfile : documentFile table with
  | error fault =>
    obtain ⟨houtcome, hstate⟩ := @run_fetch_of_badName c o table fault hfile t'
    rw [houtcome, hstate, Origin.document?_of_badName hfile]
    exact ⟨rfl, h⟩
  | ok file =>
    cases hdocument : o.document? t' table with
    | none =>
      rcases run_fetch_of_file hfile t' with hfill | ⟨copy, hread, -, -⟩ | ⟨error, -, -, houtcome, hstate⟩
      · obtain ⟨houtcome, hstate⟩ := @run_fill_of_none c o t' table hdocument (Path.folder c.dir ++ file)
        rw [hfill, houtcome, hstate]
        exact ⟨rfl, h⟩
      · rw [h.coherent.of_read hfile hread] at hdocument
        cases hdocument
      · rw [houtcome, hstate]
        exact ⟨rfl, h⟩
    | some document =>
      obtain ⟨folder, t'', hstores, hrun⟩ := h.storable.stores hfile hdocument
      rcases run_fetch_of_file hfile t' with
        hfill | ⟨copy, hread, houtcome, hstate⟩ | ⟨error, hmiss, hread, -, -⟩
      · obtain ⟨houtcome, hstate⟩ := run_fill_of_some hdocument hrun
        rw [hfill, houtcome, hstate]
        refine ⟨rfl, ?_, h.coherent.stored hstores hfile hdocument, h.storable.stored hstores hfile hdocument⟩
        intro table'
        rw [Origin.document?_stored hstores hfile hdocument, h.same]
      · rw [houtcome, hstate, ← hdocument, h.coherent.of_read hfile hread]
        exact ⟨rfl, h⟩
      · -- the path of a document that can be stored can be read
        rcases hstores.read_before (isEntryName hfile) with ⟨copy, hcopy⟩ | hnone
        · rw [hcopy] at hread
          cases hread
        · rw [hnone] at hread
          exact absurd (Except.error.inj hread).symm hmiss

theorem answers_fetch (c : Cache) (o : Origin) (t : FileTree) :
    Answers (c.fetch o.fetch) (c.Holds o t) (o.document? t) where
  document table _ h := (h.fetch table).1
  kept table _ h := (h.fetch table).2

end Cache

theorem Origin.answers_fetch (o : Origin) (t : FileTree) : Answers o.fetch (· = t) (o.document? t) where
  document table t' h := by rw [h]; rfl
  kept table t' h := by rw [(o.run_fetch table t').1, h]

/-! ## Batches -/

/-- A batch over a coherent cache gives what a batch without it gives, and leaves a coherent cache. -/
theorem cache_transparent {o : Origin} {c : Cache} {t : FileTree} (hcoherent : c.Coherent o t)
    (hstorable : c.Storable o t) (plan : Plan) (options : RenderOptions) :
    let cached := (runBatch (Source.fetch ⟨o, some c⟩) plan options : StateM FileTree _).run t
    let direct := (runBatch (Source.fetch ⟨o, none⟩) plan options : StateM FileTree _).run t
    batchArtifacts cached.1 = batchArtifacts direct.1 ∧ batchFailures cached.1 = batchFailures direct.1 ∧
      c.Coherent o cached.2 ∧ ∀ table, o.document? cached.2 table = o.document? t table := by
  have hholds : c.Holds o t t := ⟨fun _ => rfl, hcoherent, hstorable⟩
  obtain ⟨hcached, hafter⟩ := (c.answers_fetch o t).run_batch options plan hholds
  obtain ⟨hdirect, -⟩ := (o.answers_fetch t).run_batch options plan rfl
  have houtcomes := hcached.trans hdirect.symm
  refine ⟨?_, ?_, hafter.coherent, hafter.same⟩
  · rw [batchArtifacts_eq, batchArtifacts_eq]
    exact congrArg _ houtcomes
  · rw [batchFailures_eq, batchFailures_eq]
    exact congrArg _ houtcomes

def shelf : FileTree where
  entries :=
    [("defs", .fork [("Item.dbd", .leaf itemsText.toUTF8), ("Odd.dbd", .leaf ⟨#[0xFF]⟩)]),
     ("cache", .fork [("Item.dbd", .leaf itemsText.toUTF8)])]
  home := []

def shelfOrigin : Origin := .directory "defs"

def shelfCache : Cache := ⟨"cache", false⟩

theorem node?_shelf_defs (file : String) : shelf.node? ["defs", file] =
    if file = "Item.dbd" then some (.file itemsText.toUTF8)
    else if file = "Odd.dbd" then some (.file ⟨#[0xFF]⟩) else none := by
  unfold FileTree.node? shelf
  rw [Entries.node?_cons, Entries.lookup_cons, if_pos rfl, Option.bind_some]
  show Entries.node? _ [file] = _
  rw [Entries.node?_cons, Entries.lookup_cons, Entries.lookup_cons]
  by_cases hitem : file = "Item.dbd"
  · simp [hitem, Branch.node?]
  · by_cases hodd : file = "Odd.dbd"
    · simp [hodd, Branch.node?]
    · simp [hitem, hodd]

theorem node?_shelf_cache (file : String) : shelf.node? ["cache", file] =
    if file = "Item.dbd" then some (.file itemsText.toUTF8) else none := by
  unfold FileTree.node? shelf
  rw [Entries.node?_cons, Entries.lookup_cons, if_neg (by decide), Entries.lookup_cons, if_pos rfl, Option.bind_some]
  show Entries.node? _ [file] = _
  rw [Entries.node?_cons, Entries.lookup_cons]
  by_cases hitem : file = "Item.dbd"
  · simp [hitem, Branch.node?]
  · simp [hitem]

theorem node?_shelf {dir : String} (h : dir = "defs" ∨ dir = "cache") : shelf.node? [dir] = some .directory := by
  have hitem : shelf.node? ([dir] ++ ["Item.dbd"]) = some (.file itemsText.toUTF8) := by
    rcases h with rfl | rfl
    · rw [List.singleton_append, node?_shelf_defs, if_pos rfl]
    · rw [List.singleton_append, node?_shelf_cache, if_pos rfl]
  exact FileTree.node?_of_below hitem

theorem walkTo_shelf {dir : String} (h : dir = "defs" ∨ dir = "cache") :
    shelf.walkTo (Path.folder dir) = .ok [dir] := by
  have hname : IsEntryName dir := by
    rcases h with rfl | rfl <;> exact ⟨by decide, by decide, by decide, by decide⟩
  have hshort : dir.utf8ByteSize ≤ FileTree.longestName := by
    rcases h with rfl | rfl <;> decide
  rw [FileTree.walkTo_folder, Path.segments_name hname, FileTree.walk_singleton,
    FileTree.enter_name_eq_ok hname]
  have hstart : shelf.startOf dir = [] := by
    unfold FileTree.startOf
    split <;> rfl
  rw [hstart]
  exact ⟨Entries.node?_nil _, hshort, rfl⟩

theorem createDirectories_shelf : shelf.createDirectories "cache" = (.ok (), shelf) :=
  FileTree.createDirectories_of_walkTo (fun _ => by decide +kernel) (walkTo_shelf (.inr rfl)) (node?_shelf (.inr rfl))

theorem document?_shelf {table file : String} (hfile : documentFile table = .ok file) {document : ByteArray} :
    shelfOrigin.document? shelf table = some document ↔
      FileTree.checkPath ("defs/" ++ file) = .ok () ∧ file.utf8ByteSize ≤ FileTree.longestName ∧
        shelf.node? ["defs", file] = some (.file document) := by
  have hpath : shelfOrigin.path? table = some (Path.folder "defs" ++ file) := by
    rw [shelfOrigin, Origin.path?_directory "defs" hfile, String.empty_append]
  rw [Origin.document?_eq, hpath, Option.bind_some, toOption_eq_some,
    FileTree.read_eq_ok_iff (Path.isFolder_folder _) (Cache.isEntryName hfile)]
  simp only [walkTo_shelf (.inl rfl), Except.ok.injEq, exists_eq_left']
  rfl

theorem coherent_shelf : shelfCache.Coherent shelfOrigin shelf := by
  rw [Cache.coherent_iff_of_directory (fun _ => by decide +kernel) (walkTo_shelf (.inr rfl)) (node?_shelf (.inr rfl))]
  intro table path copy hpath hread
  obtain ⟨file, hfile, rfl⟩ := Cache.path_eq_ok.mp hpath
  obtain ⟨-, hshort, place, hwalk, hnode⟩ :=
    (FileTree.read_eq_ok_iff (Path.isFolder_folder _) (Cache.isEntryName hfile)).mp hread
  obtain rfl : ["cache"] = place := Except.ok.inj ((walkTo_shelf (.inr rfl)).symm.trans hwalk)
  rw [List.singleton_append, node?_shelf_cache] at hnode
  by_cases hitem : file = "Item.dbd"
  · subst hitem
    rw [document?_shelf hfile, node?_shelf_defs]
    exact ⟨by decide +kernel, hshort, hnode⟩
  · rw [if_neg hitem] at hnode
    cases hnode

theorem storable_shelf : shelfCache.Storable shelfOrigin shelf := by
  intro table path document hpath hdocument
  obtain ⟨file, hfile, rfl⟩ := Cache.path_eq_ok.mp hpath
  obtain ⟨-, hshort, hnode⟩ := (document?_shelf hfile).mp hdocument
  rw [node?_shelf_defs] at hnode
  have hcheck : FileTree.checkPath (Path.folder shelfCache.dir ++ file) = .ok () := by
    by_cases hitem : file = "Item.dbd"
    · subst hitem
      decide +kernel
    · by_cases hodd : file = "Odd.dbd"
      · subst hodd
        decide +kernel
      · simp [hitem, hodd] at hnode
  have hfree : shelf.node? (["cache"] ++ [file]) ≠ some .directory := by
    rw [List.singleton_append, node?_shelf_cache]
    by_cases hitem : file = "Item.dbd" <;> simp [hitem]
  have hwalk : shelf.walkTo (Path.folder shelfCache.dir) = .ok ["cache"] := walkTo_shelf (.inr rfl)
  exact Cache.store_of_directory (Cache.isEntryName hfile) createDirectories_shelf hcheck hshort hwalk
    (node?_shelf (.inr rfl)) hfree document

def shelfPlan : Plan := ⟨none, none, false, [("Item", 7), (" Odd ", 8), ("../Item", 9), ("Item", 7), ("None", 0)]⟩

theorem cache_transparent_shelf : shelfCache.Coherent shelfOrigin shelf ∧ shelfCache.Storable shelfOrigin shelf ∧
    batchArtifacts ((runBatch (Source.fetch ⟨shelfOrigin, some shelfCache⟩) shelfPlan ⟨true, true⟩ :
        StateM FileTree _).run shelf).1 =
      batchArtifacts ((runBatch (Source.fetch ⟨shelfOrigin, none⟩) shelfPlan ⟨true, true⟩ :
        StateM FileTree _).run shelf).1 ∧
    batchFailures ((runBatch (Source.fetch ⟨shelfOrigin, some shelfCache⟩) shelfPlan ⟨true, true⟩ :
        StateM FileTree _).run shelf).1 =
      batchFailures ((runBatch (Source.fetch ⟨shelfOrigin, none⟩) shelfPlan ⟨true, true⟩ :
        StateM FileTree _).run shelf).1 := by
  obtain ⟨hartifacts, hfailures, -, -⟩ := cache_transparent coherent_shelf storable_shelf shelfPlan ⟨true, true⟩
  exact ⟨coherent_shelf, storable_shelf, hartifacts, hfailures⟩

end TableLayout
