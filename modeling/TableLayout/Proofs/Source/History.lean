import TableLayout.Proofs.Source.Cached

/-!
# A cache over its history

Requests to one cache directory, each with an answer of the inner source at the time. A request answers from the copy
and changes nothing, or asks the inner source and stores what it answers. A copy is therefore what the inner source
answered last, or what was there at the start.
-/

namespace TableLayout

open Text

/-- The files, and what the inner source was asked and answered, the last first. -/
structure Desk where
  files : FileTree
  asked : List (String × Except SourceFault ByteArray)

namespace Desk

def onFiles {α : Type} (act : StateM FileTree α) : StateM Desk α := fun s =>
  ((act.run s.files).1, { s with files := (act.run s.files).2 })

instance : FileSystem (StateM Desk) where
  read path := onFiles (FileSystem.read path)
  write path content := onFiles (FileSystem.write path content)
  createDirectories path := onFiles (FileSystem.createDirectories path)
  list path := onFiles (FileSystem.list path)

/-- What the inner source answered last for a table, if it had a document. -/
def latest? (s : Desk) (table : String) : Option ByteArray :=
  s.asked.findSome? fun (name, outcome) => if trimmed name = trimmed table then outcome.toOption else none

end Desk

/-- A request, and what the inner source answers at the time. -/
structure Request where
  table : String
  refresh : Bool
  inner : String → Fetched

namespace Request

def ask (r : Request) (name : String) : StateM Desk Fetched := fun s =>
  (r.inner name, { s with asked := (name, (r.inner name).outcome) :: s.asked })

def serve (r : Request) (c : Cache) : StateM Desk Fetched := Cache.fetch { c with refresh := r.refresh } r.ask r.table

end Request

namespace Cache

def after (c : Cache) (s : Desk) (history : List Request) : Desk :=
  history.foldl (fun s r => ((r.serve c).run s).2) s

/-- Whatever document the table gets can be stored: its directory can be made, and the file written. -/
def Admits (c : Cache) (t : FileTree) (table : String) : Prop :=
  ∀ path document, c.path table = .ok path → ((c.store path document : StateM FileTree _).run t).1 = .ok document

/-- The copy that is found once the directory is made, as the way to it may lead through directories that are
missing. -/
def copy? (c : Cache) (t : FileTree) (table : String) : Option ByteArray :=
  (c.path table).toOption.bind fun path => ((t.createDirectories c.dir).2.read path).toOption

end Cache

/-! ## Files on the desk -/

namespace Desk
variable {α β : Type}

theorem run_onFiles (act : StateM FileTree α) (s : Desk) :
    (onFiles act).run s = ((act.run s.files).1, { s with files := (act.run s.files).2 }) := rfl

theorem onFiles_bind (act : StateM FileTree α) (next : α → StateM FileTree β) :
    onFiles (act >>= next) = onFiles act >>= fun a => onFiles (next a) := rfl

theorem store_eq (c : Cache) (path : String) (document : ByteArray) :
    (c.store path document : StateM Desk _) = onFiles (c.store path document) := by
  unfold Cache.store
  rw [onFiles_bind]
  apply congrArg (onFiles (FileSystem.createDirectories c.dir) >>= ·)
  funext outcome
  cases outcome with
  | error error => rfl
  | ok made =>
    cases made
    dsimp only
    rw [onFiles_bind]
    apply congrArg (onFiles (FileSystem.write path document) >>= ·)
    funext outcome
    cases outcome <;> rfl

end Desk

/-! ## One request -/

section
variable {c : Cache} {t : FileTree} {s : Desk} {r : Request} {table file : String}

def Request.Misses (r : Request) (s : Desk) (path : String) : Prop :=
  r.refresh = true ∨ ∀ copy, s.files.read path ≠ .ok copy

/-- What a request does: it fails where the name is none, or answers with the copy, or asks the inner source, which
fails or has a document that is stored. -/
inductive Served (c : Cache) (r : Request) (s : Desk) : Except SourceFault ByteArray → Desk → Prop
  | refused {fault : SourceFault} (hfile : documentFile r.table = .error fault) : Served c r s (.error fault) s
  | copied {file : String} {copy : ByteArray} (hfile : documentFile r.table = .ok file) (huse : r.refresh = false)
      (hread : s.files.read (Path.folder c.dir ++ file) = .ok copy) : Served c r s (.ok copy) s
  | failed {file : String} {fault : SourceFault} (hfile : documentFile r.table = .ok file)
      (hmiss : r.Misses s (Path.folder c.dir ++ file)) (hinner : (r.inner r.table).outcome = .error fault) :
      Served c r s (.error fault) { s with asked := (r.table, .error fault) :: s.asked }
  | stored {file : String} {document : ByteArray} {folder : Place} {t' : FileTree}
      (hfile : documentFile r.table = .ok file) (hmiss : r.Misses s (Path.folder c.dir ++ file))
      (hinner : (r.inner r.table).outcome = .ok document) (hstores : c.Stores s.files file document folder t') :
      Served c r s (.ok document) ⟨t', (r.table, .ok document) :: s.asked⟩

theorem Cache.path_eq_error {fault : SourceFault} :
    c.path table = .error fault ↔ documentFile table = .error fault := map_eq_error

theorem Cache.Admits.stores (h : c.Admits t table) (hfile : documentFile table = .ok file) (document : ByteArray) :
    ∃ folder t', c.Stores t file document folder t' ∧
      (c.store (Path.folder c.dir ++ file) document : StateM FileTree _).run t = (.ok document, t') :=
  exists_stores (isEntryName hfile) (h _ document (path_eq_ok.mpr ⟨file, hfile, rfl⟩))

section
variable (h : c.Admits s.files r.table)
include h

theorem run_store (hfile : documentFile r.table = .ok file) (document : ByteArray)
    (asked : List (String × Except SourceFault ByteArray)) : ∃ folder t',
    c.Stores s.files file document folder t' ∧
      (Cache.store { c with refresh := r.refresh } (Path.folder c.dir ++ file) document : StateM Desk _).run
        ⟨s.files, asked⟩ = (.ok document, ⟨t', asked⟩) := by
  obtain ⟨folder, t', hstores, hrun⟩ := h.stores hfile document
  refine ⟨folder, t', hstores, ?_⟩
  rw [Desk.store_eq, Desk.run_onFiles]
  exact congrArg (fun p => (p.1, Desk.mk p.2 asked)) hrun

theorem served_fill (hfile : documentFile r.table = .ok file) (hmiss : r.Misses s (Path.folder c.dir ++ file)) :
    let run := (Cache.fill { c with refresh := r.refresh } r.ask r.table (Path.folder c.dir ++ file)).run s
    Served c r s run.1.outcome run.2 := by
  cases hinner : r.inner r.table with
  | mk outcome notices =>
    have houtcome : (r.inner r.table).outcome = outcome := by rw [hinner]
    have hask : (r.ask r.table).run s = (⟨outcome, notices⟩, { s with asked := (r.table, outcome) :: s.asked }) := by
      show (r.inner r.table, { s with asked := (r.table, (r.inner r.table).outcome) :: s.asked }) = _
      rw [hinner]
    unfold Cache.fill
    dsimp only
    rw [run_bind_of_run hask]
    cases outcome with
    | error fault => exact .failed hfile hmiss houtcome
    | ok document =>
      obtain ⟨folder, t', hstores, hrun⟩ := run_store h hfile document ((r.table, .ok document) :: s.asked)
      dsimp only
      rw [run_bind_of_run hrun]
      exact .stored hfile hmiss houtcome hstores

theorem served_of_admits : Served c r s ((r.serve c).run s).1.outcome ((r.serve c).run s).2 := by
  unfold Request.serve
  cases hfile : documentFile r.table with
  | error fault =>
    rw [Cache.fetch_of_badName _ r.ask hfile]
    exact .refused hfile
  | ok file =>
    unfold Cache.fetch
    have hpath : Cache.path { c with refresh := r.refresh } r.table = .ok (Path.folder c.dir ++ file) :=
      Cache.path_eq_ok.mpr ⟨file, hfile, rfl⟩
    have hread : (FileSystem.read (Path.folder c.dir ++ file) : StateM Desk _).run s =
        (s.files.read (Path.folder c.dir ++ file), s) := rfl
    rw [hpath]
    dsimp only
    by_cases hrefresh : r.refresh = true
    · rw [if_pos hrefresh]
      exact served_fill h hfile (.inl hrefresh)
    · rw [if_neg hrefresh, run_bind_of_run hread]
      -- a path that can be written can be read, or leads to nothing
      obtain ⟨folder, t', hstores, -⟩ := h.stores hfile .empty
      rcases hstores.read_before (Cache.isEntryName hfile) with ⟨copy, hcopy⟩ | hnone
      · rw [hcopy]
        exact .copied hfile (by simpa using hrefresh) hcopy
      · rw [hnone]
        apply served_fill h hfile
        right
        intro copy hcopy
        rw [hnone] at hcopy
        cases hcopy

end

/-! ## Copies -/

theorem Cache.copy?_eq (hfile : documentFile table = .ok file) (t : FileTree) :
    c.copy? t table = ((t.createDirectories c.dir).2.read (Path.folder c.dir ++ file)).toOption := by
  unfold copy?
  rw [path_eq_ok.mpr ⟨file, hfile, rfl⟩]
  rfl

theorem Cache.copy?_of_read (hfile : documentFile table = .ok file) {copy : ByteArray}
    (hread : t.read (Path.folder c.dir ++ file) = .ok copy) : c.copy? t table = some copy := by
  rw [copy?_eq hfile, toOption_eq_some]
  exact (FileTree.grows_createDirectories t c.dir).read (Path.isFolder_folder c.dir) (isEntryName hfile) hread

section
variable {t' : FileTree} {document : ByteArray} {folder : Place} (h : c.Stores t file document folder t')
include h

theorem Cache.Stores.copy?_eq {file' : String} (hfile' : documentFile table = .ok file') :
    c.copy? t' table = if file' = file then some document else c.copy? t table := by
  rw [Cache.copy?_eq hfile', Cache.copy?_eq hfile', h.createDirectories_again]
  apply Option.ext
  intro content
  rw [toOption_eq_some, h.read_iff (isEntryName hfile')]
  by_cases heq : file' = file
  · rw [if_pos heq, if_pos heq, Option.some.injEq, eq_comm]
  · rw [if_neg heq, if_neg heq, toOption_eq_some]

theorem Cache.Stores.admits (hadmits : c.Admits t table) : c.Admits t' table := by
  intro path next hpath
  obtain ⟨file', hfile', rfl⟩ := path_eq_ok.mp hpath
  obtain ⟨folder', t'', h', -⟩ := hadmits.stores hfile' next
  exact h.store_again (isEntryName hfile') h' next

end

namespace Desk

theorem latest?_cons (files : FileTree) (name : String) (outcome : Except SourceFault ByteArray)
    (asked : List (String × Except SourceFault ByteArray)) (table : String) :
    (⟨files, (name, outcome) :: asked⟩ : Desk).latest? table =
      if trimmed name = trimmed table then outcome.toOption.or ((⟨files, asked⟩ : Desk).latest? table)
      else (⟨files, asked⟩ : Desk).latest? table := by
  unfold latest?
  rw [List.findSome?_cons]
  by_cases hname : trimmed name = trimmed table
  · simp only [hname, if_true]
    cases outcome <;> rfl
  · simp only [hname, if_false]

end Desk

/-! ## Requests one after another -/

/-- Every copy is what the inner source answered last, or else the one that was there in `t`, and what could be stored
then can be stored still. -/
structure Cache.Keeps (c : Cache) (t : FileTree) (s : Desk) : Prop where
  copies : ∀ table file, documentFile table = .ok file → c.copy? s.files table = (s.latest? table).or (c.copy? t table)
  admits : ∀ table, c.Admits t table → c.Admits s.files table

theorem Cache.Keeps.start (c : Cache) (t : FileTree) : c.Keeps t ⟨t, []⟩ :=
  ⟨fun _ _ _ => rfl, fun _ h => h⟩

section
variable {outcome : Except SourceFault ByteArray} {s' : Desk} (h : Served c r s outcome s')
include h

theorem Served.keeps (hkeeps : c.Keeps t s) : c.Keeps t s' := by
  cases h with
  | refused _ => exact hkeeps
  | copied _ _ _ => exact hkeeps
  | failed _ _ _ =>
    refine ⟨?_, hkeeps.admits⟩
    intro table file' hfile'
    rw [Desk.latest?_cons, hkeeps.copies table file' hfile']
    exact congrArg (Option.or · _) (ite_self _).symm
  | @stored file _ _ _ hfile _ _ hstores =>
    refine ⟨?_, fun table hadmits => hstores.admits (hkeeps.admits table hadmits)⟩
    intro table file' hfile'
    rw [hstores.copy?_eq hfile', hkeeps.copies table file' hfile', Desk.latest?_cons]
    by_cases heq : file = file'
    · rw [if_pos heq.symm, if_pos ((documentFile_inj hfile hfile').mp heq)]
      rfl
    · rw [if_neg (Ne.symm heq), if_neg fun e => heq ((documentFile_inj hfile hfile').mpr e)]
      rfl

theorem Served.readable (hname : IsEntryName file)
    (hread : ∃ copy, s.files.read (Path.folder c.dir ++ file) = .ok copy) :
    ∃ copy, s'.files.read (Path.folder c.dir ++ file) = .ok copy := by
  cases h with
  | refused _ => exact hread
  | copied _ _ _ => exact hread
  | failed _ _ _ => exact hread
  | @stored stored _ _ _ _ _ _ hstores =>
    by_cases heq : file = stored
    · exact ⟨_, (hstores.read_iff hname).mpr (by rw [if_pos heq])⟩
    · obtain ⟨copy, hcopy⟩ := hread
      refine ⟨copy, (hstores.read_iff hname).mpr ?_⟩
      rw [if_neg heq]
      exact (FileTree.grows_createDirectories s.files c.dir).read (Path.isFolder_folder c.dir) hname hcopy

end

/-! ## Histories -/

theorem Cache.Keeps.serve (hkeeps : c.Keeps t s) (hadmits : c.Admits t r.table) :
    c.Keeps t ((r.serve c).run s).2 := (served_of_admits (hkeeps.admits _ hadmits)).keeps hkeeps

theorem Cache.Keeps.after (hkeeps : c.Keeps t s) {history : List Request}
    (hadmits : ∀ r ∈ history, c.Admits t r.table) : c.Keeps t (c.after s history) := by
  induction history generalizing s with
  | nil => exact hkeeps
  | cons r history ih =>
    rw [List.forall_mem_cons] at hadmits
    exact ih (hkeeps.serve hadmits.1) hadmits.2

theorem Cache.Keeps.readable_after (hkeeps : c.Keeps t s) {history : List Request}
    (hadmits : ∀ r ∈ history, c.Admits t r.table) (hname : IsEntryName file)
    (hread : ∃ copy, s.files.read (Path.folder c.dir ++ file) = .ok copy) :
    ∃ copy, (c.after s history).files.read (Path.folder c.dir ++ file) = .ok copy := by
  induction history generalizing s with
  | nil => exact hread
  | cons r history ih =>
    rw [List.forall_mem_cons] at hadmits
    apply ih (hkeeps.serve hadmits.1) hadmits.2
    exact (served_of_admits (hkeeps.admits _ hadmits.1)).readable hname hread

theorem Cache.after_append (c : Cache) (s : Desk) (before rest : List Request) :
    c.after s (before ++ rest) = c.after (c.after s before) rest := List.foldl_append

/-- The tree `t'` has the document at the path, and in all other places the files of `t`. -/
def FileTree.Replaces (t' t : FileTree) (path : String) (document : ByteArray) : Prop :=
  ∃ place, t'.locate path = .ok place ∧ t'.node? place = some (.file document) ∧
    ∀ q, q ≠ place → ∀ content, t'.node? q = some (.file content) ↔ t.node? q = some (.file content)

theorem Cache.Stores.replaces {t' : FileTree} {document : ByteArray} {folder : Place}
    (h : c.Stores t file document folder t') (hname : IsEntryName file) :
    t'.Replaces t (Path.folder c.dir ++ file) document := by
  have hdirectory : t'.node? folder = some .directory := (h.directory_iff folder).mpr h.directory
  refine ⟨folder ++ [file], ?_, ?_, ?_⟩
  · exact (FileTree.locate_eq_ok_iff (Path.isFolder_folder c.dir) hname).mpr
      ⟨h.check, h.short, folder, h.walkTo_folder, hdirectory, rfl⟩
  · rw [h.node?, if_pos rfl]
  · intro q hq content
    exact h.file_iff hq

end

section
variable {c : Cache} {r : Request} {file : String} {s s' : Desk} {outcome : Except SourceFault ByteArray}
  (h : Served c r s outcome s')
include h

theorem Served.of_badName {fault : SourceFault} (hfault : documentFile r.table = .error fault) :
    outcome = .error fault ∧ s' = s := by
  cases h with
  | refused hfile =>
    cases hfile.symm.trans hfault
    exact ⟨rfl, rfl⟩
  | copied hfile _ _ => cases hfile.symm.trans hfault
  | failed hfile _ _ => cases hfile.symm.trans hfault
  | stored hfile _ _ _ => cases hfile.symm.trans hfault

variable (hfile : documentFile r.table = .ok file)
include hfile

theorem Served.read_document {document : ByteArray} (hok : outcome = .ok document) :
    s'.files.read (Path.folder c.dir ++ file) = .ok document := by
  cases h with
  | refused _ => cases hok
  | copied hfile' _ hread =>
    cases hok
    cases hfile'.symm.trans hfile
    exact hread
  | failed _ _ _ => cases hok
  | stored hfile' _ _ hstores =>
    cases hok
    cases hfile'.symm.trans hfile
    exact (hstores.read_iff (Cache.isEntryName hfile)).mpr (by rw [if_pos rfl])

theorem Served.of_copy {copy : ByteArray} (huse : r.refresh = false)
    (hcopy : s.files.read (Path.folder c.dir ++ file) = .ok copy) : outcome = .ok copy ∧ s' = s := by
  have hhit : ¬r.Misses s (Path.folder c.dir ++ file) := by
    rintro (hrefresh | hnone)
    · rw [huse] at hrefresh
      cases hrefresh
    · exact hnone copy hcopy
  cases h with
  | refused hfile' => cases hfile'.symm.trans hfile
  | copied hfile' _ hread =>
    cases hfile'.symm.trans hfile
    cases hread.symm.trans hcopy
    exact ⟨rfl, rfl⟩
  | failed hfile' hmiss _ =>
    cases hfile'.symm.trans hfile
    exact absurd hmiss hhit
  | stored hfile' hmiss _ _ =>
    cases hfile'.symm.trans hfile
    exact absurd hmiss hhit

theorem Served.of_misses (hmiss : r.Misses s (Path.folder c.dir ++ file)) :
    outcome = (r.inner r.table).outcome ∧ s'.asked = (r.table, outcome) :: s.asked ∧
      (∀ fault, outcome = .error fault → s'.files = s.files) ∧
      ∀ document, outcome = .ok document → s'.files.Replaces s.files (Path.folder c.dir ++ file) document := by
  cases h with
  | refused hfile' => cases hfile'.symm.trans hfile
  | copied hfile' huse hread =>
    cases hfile'.symm.trans hfile
    rcases hmiss with hrefresh | hnone
    · rw [huse] at hrefresh
      cases hrefresh
    · exact absurd hread (hnone _)
  | failed _ _ hinner =>
    refine ⟨hinner.symm, rfl, fun _ _ => rfl, ?_⟩
    intro document hok
    cases hok
  | stored hfile' _ hinner hstores =>
    cases hfile'.symm.trans hfile
    refine ⟨hinner.symm, rfl, ?_, ?_⟩
    · intro fault herror
      cases herror
    · intro document hok
      cases hok
      exact hstores.replaces (Cache.isEntryName hfile)

end

/-- A request in any history of requests. For a name that is none it fails and changes nothing. It answers with the
copy, if there is one and it may be used, and changes nothing. Otherwise it asks the inner source and answers what that
does: a fault leaves all files as they were, and a document becomes the one file that changes. Where copies may be
used, a table that was answered before is answered by what the inner source had last, or by the copy that was there at
the start. -/
theorem cache_history (c : Cache) (t : FileTree) (history : List Request) (r : Request)
    (hadmits : ∀ q ∈ r :: history, c.Admits t q.table) :
    let s := c.after ⟨t, []⟩ history
    let outcome := ((r.serve c).run s).1.outcome
    let s' := ((r.serve c).run s).2
    (∀ fault, c.path r.table = .error fault → outcome = .error fault ∧ s' = s) ∧
    ∀ path, c.path r.table = .ok path →
      (∀ copy, r.refresh = false → s.files.read path = .ok copy → outcome = .ok copy ∧ s' = s) ∧
      (r.Misses s path →
        outcome = (r.inner r.table).outcome ∧ s'.asked = (r.table, outcome) :: s.asked ∧
        (∀ fault, outcome = .error fault → s'.files = s.files) ∧
        ∀ document, outcome = .ok document → s'.files.Replaces s.files path document) ∧
      (r.refresh = false →
        (∃ before q rest document, history = before ++ q :: rest ∧ trimmed q.table = trimmed r.table ∧
          ((q.serve c).run (c.after ⟨t, []⟩ before)).1.outcome = .ok document) →
        ∃ document, (s.latest? r.table).or (c.copy? t r.table) = some document ∧ outcome = .ok document) := by
  intro s outcome s'
  rw [List.forall_mem_cons] at hadmits
  obtain ⟨hr, hhistory⟩ := hadmits
  have hkeeps : c.Keeps t s := (Cache.Keeps.start c t).after hhistory
  have hserved : Served c r s outcome s' := served_of_admits (hkeeps.admits _ hr)
  constructor
  · intro fault hpath
    exact hserved.of_badName (Cache.path_eq_error.mp hpath)
  · intro path hpath
    obtain ⟨file, hfile, rfl⟩ := Cache.path_eq_ok.mp hpath
    refine ⟨fun copy => hserved.of_copy hfile, hserved.of_misses hfile, ?_⟩
    rintro huse ⟨before, q, rest, document, rfl, htable, hanswered⟩
    rw [List.forall_mem_append, List.forall_mem_cons] at hhistory
    obtain ⟨hbefore, hq, hrest⟩ := hhistory
    have hfile' : documentFile q.table = .ok file := by
      rw [← documentFile_trimmed, htable, documentFile_trimmed, hfile]
    have hkept := (Cache.Keeps.start c t).after hbefore
    have hdocument := (served_of_admits (hkept.admits _ hq)).read_document hfile' hanswered
    -- the file that was read or stored then can still be read
    obtain ⟨copy, hread⟩ := (hkept.serve hq).readable_after hrest (Cache.isEntryName hfile) ⟨document, hdocument⟩
    have hcopy : s.files.read (Path.folder c.dir ++ file) = .ok copy := by
      show (c.after _ (before ++ q :: rest)).files.read _ = _
      rw [Cache.after_append]
      exact hread
    refine ⟨copy, ?_, (hserved.of_copy hfile huse hcopy).1⟩
    rw [← hkeeps.copies r.table file hfile]
    exact Cache.copy?_of_read hfile hcopy

/-! ## A history of the shelf -/

theorem admits_shelf {table : String} (h : documentFile table = .ok "Item.dbd") : shelfCache.Admits shelf table := by
  intro path document hpath
  obtain ⟨file, hfile, rfl⟩ := Cache.path_eq_ok.mp hpath
  obtain rfl : file = "Item.dbd" := Except.ok.inj (hfile.symm.trans h)
  have hfree : shelf.node? (["cache"] ++ ["Item.dbd"]) ≠ some .directory := by
    rw [List.singleton_append, node?_shelf_cache, if_pos rfl]
    simp
  have hwalk : shelf.walkTo (Path.folder shelfCache.dir) = .ok ["cache"] := walkTo_shelf (.inr rfl)
  exact Cache.store_of_directory (Cache.isEntryName hfile) createDirectories_shelf (by decide +kernel) (by decide) hwalk
    (node?_shelf (.inr rfl)) hfree document

def unanswered (table : String) (refresh : Bool) : Request := ⟨table, refresh, fun _ => ⟨.error .noCacheHome, []⟩⟩

def shelfHistory : List Request :=
  [unanswered "Item" false, ⟨"Item", true, fun _ => ⟨.ok ⟨#[0xFF]⟩, []⟩⟩, unanswered " Item" true]

theorem cache_history_shelf :
    (∀ q ∈ unanswered "Item\t" false :: shelfHistory, shelfCache.Admits shelf q.table) ∧
    (((unanswered "Item\t" false).serve shelfCache).run
      (shelfCache.after ⟨shelf, []⟩ shelfHistory)).1.outcome = .ok ⟨#[0xFF]⟩ := by
  have hadmits : ∀ q ∈ unanswered "Item\t" false :: shelfHistory, shelfCache.Admits shelf q.table := by
    have hfiles : ∀ q ∈ unanswered "Item\t" false :: shelfHistory, documentFile q.table = .ok "Item.dbd" := by
      decide +kernel
    exact fun q hq => admits_shelf (hfiles q hq)
  refine ⟨hadmits, ?_⟩
  obtain ⟨-, hserved⟩ := cache_history shelfCache shelf shelfHistory (unanswered "Item\t" false) hadmits
  have hpath : shelfCache.path "Item\t" = .ok "cache/Item.dbd" := by decide +kernel
  obtain ⟨-, -, hanswered⟩ := hserved _ hpath
  obtain ⟨document, hlatest, houtcome⟩ := hanswered rfl
    ⟨[unanswered "Item" false], ⟨"Item", true, fun _ => ⟨.ok ⟨#[0xFF]⟩, []⟩⟩, [unanswered " Item" true], ⟨#[0xFF]⟩, rfl,
      by decide +kernel, by decide +kernel⟩
  have hasked : (shelfCache.after ⟨shelf, []⟩ shelfHistory).latest? "Item\t" = some ⟨#[0xFF]⟩ := by decide +kernel
  have hdocument : some (⟨#[0xFF]⟩ : ByteArray) = some document := by
    rw [← hlatest]
    show _ = ((shelfCache.after ⟨shelf, []⟩ shelfHistory).latest? "Item\t").or _
    rw [hasked, Option.some_or]
  rw [houtcome, Option.some.inj hdocument]

end TableLayout
