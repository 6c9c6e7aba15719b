import TableLayout.Proofs.Files.Walks
import TableLayout.Proofs.Text.Bytes
import TableLayout.Proofs.Text.Cutting

/-!
# Files of a folder

The path of a file is the path of its folder, which is empty or ends in a slash, and its name. Reading and writing
it is a walk to the folder, and a look at the name there.
-/

namespace TableLayout

open Text

/-! ## Paths -/

structure IsEntryName (name : String) : Prop where
  no_slash : '/' ∉ name.toList
  ne : name ≠ ""
  ne_dot : name ≠ "."
  ne_dots : name ≠ ".."

namespace Path

/-- Paths to which the name of an entry can be added. -/
def IsFolder (front : String) : Prop := front = "" ∨ ∃ s, front = s ++ "/"

/-- The folder that a directory's path names. -/
def folder (dir : String) : String :=
  if dir = "" then "" else if dir.toList.getLast? = some '/' then dir else dir ++ "/"

theorem isFolder_folder (dir : String) : IsFolder (folder dir) := by
  unfold folder
  by_cases hne : dir = ""
  · exact .inl (if_pos hne)
  · rw [if_neg hne]
    by_cases hlast : dir.toList.getLast? = some '/'
    · obtain ⟨s, hs⟩ := List.getLast?_eq_some_iff.mp hlast
      refine .inr ⟨String.ofList s, ?_⟩
      rw [if_pos hlast, ← String.toList_inj, hs]
      simp
    · exact .inr ⟨dir, if_neg hlast⟩

theorem join_eq (dir name : String) : join dir name = folder dir ++ name := by
  unfold join folder
  by_cases hne : dir = ""
  · simp [hne]
  · by_cases hlast : dir.toList.getLast? = some '/'
    · simp [hne, hlast]
    · simp [hne, hlast]

theorem segments_append_slash (s rest : String) : segments (s ++ "/" ++ rest) = segments s ++ segments rest := by
  have hlist : (s ++ "/" ++ rest).toList = s.toList ++ '/' :: rest.toList := by simp
  unfold segments
  rw [hlist, List.splitOn_append_cons_self, List.filter_append, List.map_append]

theorem segments_name {name : String} (h : IsEntryName name) : segments name = [name] := by
  have hne : name.toList ≠ [] := by simpa using h.ne
  unfold segments
  rw [List.splitOn_eq_singleton h.no_slash]
  simp [hne]

theorem segments_empty : segments "" = [] := by decide

theorem segments_folder (dir : String) : segments (folder dir) = segments dir := by
  unfold folder
  by_cases hne : dir = ""
  · rw [if_pos hne, hne]
  · rw [if_neg hne]
    by_cases hlast : dir.toList.getLast? = some '/'
    · rw [if_pos hlast]
    · have hslash := segments_append_slash dir ""
      rw [String.append_empty, segments_empty, List.append_nil] at hslash
      rw [if_neg hlast, hslash]

theorem isAbsolute_folder (dir : String) : isAbsolute (folder dir) = isAbsolute dir := by
  unfold folder
  by_cases hne : dir = ""
  · rw [if_pos hne, hne]
  · rw [if_neg hne]
    by_cases hlast : dir.toList.getLast? = some '/'
    · rw [if_pos hlast]
    · have hlist : dir.toList ≠ [] := by simpa using hne
      rw [if_neg hlast]
      unfold isAbsolute
      rw [String.toList_append, List.head?_append_of_ne_nil _ hlist]

section
variable {front name : String} (hfront : IsFolder front) (hname : IsEntryName name)
include hfront hname

theorem segments_entry : segments (front ++ name) = segments front ++ [name] := by
  rcases hfront with rfl | ⟨s, rfl⟩
  · rw [String.empty_append, segments_empty, segments_name hname]
    rfl
  · have hfolder := segments_append_slash s ""
    rw [String.append_empty, segments_empty, List.append_nil] at hfolder
    rw [segments_append_slash, segments_name hname, hfolder]

theorem isAbsolute_entry : isAbsolute (front ++ name) = isAbsolute front := by
  unfold isAbsolute
  rcases hfront with rfl | ⟨s, rfl⟩
  · have hhead : name.toList.head? ≠ some '/' := fun h => hname.no_slash (List.mem_of_head? h)
    simp [hhead]
  · rw [String.toList_append, List.head?_append_of_ne_nil]
    simp

omit hfront in
theorem endsInSlash_entry : endsInSlash (front ++ name) = false := by
  have hne : name.toList ≠ [] := by simpa using hname.ne
  have hlast : name.toList.getLast? ≠ some '/' := fun h => hname.no_slash (List.mem_of_getLast? h)
  unfold endsInSlash
  rw [String.toList_append, List.getLast?_append_of_ne_nil _ hne]
  simp [hlast]

end

end Path

/-! ## Files -/

namespace FileTree

def walkTo (t : FileTree) (front : String) : Except FileError Place :=
  t.walk (t.startOf front) (Path.segments front)

theorem startOf_congr {t t' : FileTree} (h : t'.home = t.home) (path : String) : t'.startOf path = t.startOf path := by
  unfold startOf
  rw [h]

theorem walkTo_mono {t t' : FileTree} (hhome : t'.home = t.home)
    (h : ∀ q, t.node? q = some .directory → t'.node? q = some .directory) {front : String} {place : Place}
    (hwalk : t.walkTo front = .ok place) : t'.walkTo front = .ok place := by
  unfold walkTo at hwalk ⊢
  rw [startOf_congr hhome]
  exact walk_mono h hwalk

/-- The tree `t'` has the content under a name in the folder at `place`, and is else as `t`. -/
structure Writes (t : FileTree) (front name : String) (content : ByteArray) (place : Place) (t' : FileTree) :
    Prop where
  check : checkPath (front ++ name) = .ok ()
  short : name.utf8ByteSize ≤ longestName
  walk : t.walkTo front = .ok place
  directory : t.node? place = some .directory
  free : t.node? (place ++ [name]) ≠ some .directory
  put : t' = t.put (place ++ [name]) (.file content)

section
variable {t t' : FileTree} {front name : String} {place : Place} {content : ByteArray}

theorem enter_name_eq_ok (hname : IsEntryName name) {here : Place} : t.enter here name = .ok place ↔
    t.node? here = some .directory ∧ name.utf8ByteSize ≤ longestName ∧ place = here ++ [name] := by
  constructor
  · intro h
    have hdirectory := directory_of_enter h
    unfold enter at h
    rw [hdirectory] at h
    simp only [hname.ne_dot, hname.ne_dots, if_false] at h
    split at h
    · cases h
    · next hlong =>
      cases h
      exact ⟨hdirectory, by omega, rfl⟩
  · intro ⟨hdirectory, hshort, hplace⟩
    unfold enter
    rw [hdirectory, hplace]
    simp only [hname.ne_dot, hname.ne_dots, if_false]
    rw [if_neg (by omega)]

variable (hfront : Path.IsFolder front) (hname : IsEntryName name)
include hfront hname

theorem locate_entry (t : FileTree) : t.locate (front ++ name) =
    checkPath (front ++ name) >>= fun _ => t.walkTo front >>= fun place => t.enter place name := by
  unfold locate walkTo startOf
  rw [Path.segments_entry hfront hname, Path.isAbsolute_entry hfront hname, Path.endsInSlash_entry hname]
  simp only [Bool.false_eq_true, if_false, List.append_nil, walk_append, walk_singleton]

theorem locate_eq_ok_iff : t.locate (front ++ name) = .ok place ↔
    checkPath (front ++ name) = .ok () ∧ name.utf8ByteSize ≤ longestName ∧
      ∃ folder, t.walkTo front = .ok folder ∧ t.node? folder = some .directory ∧ place = folder ++ [name] := by
  rw [locate_entry hfront hname, bind_eq_ok]
  simp only [bind_eq_ok, enter_name_eq_ok hname]
  constructor
  · intro ⟨_, hcheck, folder, hwalk, hdirectory, hshort, hplace⟩
    exact ⟨hcheck, hshort, folder, hwalk, hdirectory, hplace⟩
  · intro ⟨hcheck, hshort, folder, hwalk, hdirectory, hplace⟩
    exact ⟨(), hcheck, folder, hwalk, hdirectory, hshort, hplace⟩

theorem read_eq_ok_iff : t.read (front ++ name) = .ok content ↔
    checkPath (front ++ name) = .ok () ∧ name.utf8ByteSize ≤ longestName ∧
      ∃ folder, t.walkTo front = .ok folder ∧ t.node? (folder ++ [name]) = some (.file content) := by
  unfold read
  rw [bind_eq_ok]
  constructor
  · intro ⟨place, hplace, hread⟩
    obtain ⟨hcheck, hshort, folder, hwalk, -, rfl⟩ := (locate_eq_ok_iff hfront hname).mp hplace
    refine ⟨hcheck, hshort, folder, hwalk, ?_⟩
    cases hnode : t.node? (folder ++ [name]) with
    | none => simp [hnode] at hread
    | some node =>
      cases node with
      | directory => simp [hnode] at hread
      | file found =>
        simp only [hnode, Except.ok.injEq] at hread
        rw [hread]
  · intro ⟨hcheck, hshort, folder, hwalk, hfile⟩
    refine ⟨folder ++ [name], ?_, by rw [hfile]⟩
    exact (locate_eq_ok_iff hfront hname).mpr ⟨hcheck, hshort, folder, hwalk, node?_of_below hfile, rfl⟩

theorem Grows.read (h : Grows t t') (hread : t.read (front ++ name) = .ok content) :
    t'.read (front ++ name) = .ok content := by
  obtain ⟨hcheck, hshort, place, hwalk, hnode⟩ := (read_eq_ok_iff hfront hname).mp hread
  refine (read_eq_ok_iff hfront hname).mpr ⟨hcheck, hshort, place, ?_, h.file_iff.mpr hnode⟩
  exact walkTo_mono h.home (fun _ => h.directory) hwalk

theorem write_eq_ok_iff : t.write (front ++ name) content = .ok t' ↔ ∃ place, t.Writes front name content place t' := by
  unfold write
  rw [bind_eq_ok]
  constructor
  · intro ⟨place, hplace, hwrite⟩
    obtain ⟨hcheck, hshort, folder, hwalk, hdirectory, rfl⟩ := (locate_eq_ok_iff hfront hname).mp hplace
    split at hwrite
    · cases hwrite
    · next hfree =>
      cases hwrite
      exact ⟨folder, hcheck, hshort, hwalk, hdirectory, hfree, rfl⟩
  · intro ⟨folder, h⟩
    refine ⟨folder ++ [name], ?_, ?_⟩
    · exact (locate_eq_ok_iff hfront hname).mpr ⟨h.check, h.short, folder, h.walk, h.directory, rfl⟩
    · split
      · next hdirectory => exact absurd hdirectory h.free
      · rw [h.put]

theorem write_self (h : t.read (front ++ name) = .ok content) : t.write (front ++ name) content = .ok t := by
  obtain ⟨hcheck, hshort, folder, hwalk, hfile⟩ := (read_eq_ok_iff hfront hname).mp h
  apply (write_eq_ok_iff hfront hname).mpr
  exact ⟨folder, hcheck, hshort, hwalk, node?_of_below hfile, by simp [hfile], (put_self hfile).symm⟩

end

/-! ## What a written file leaves as it was -/

namespace Writes
variable {t t' : FileTree} {front name : String} {content : ByteArray} {place : Place}
  (h : t.Writes front name content place t')
include h

theorem home : t'.home = t.home := by rw [h.put]; rfl

theorem node? (q : Place) : t'.node? q = if q = place ++ [name] then some (.file content) else t.node? q := by
  rw [h.put]
  exact node?_put _ h.directory h.free q

theorem directory_iff (q : Place) : t'.node? q = some .directory ↔ t.node? q = some .directory := by
  rw [h.node?]
  by_cases hq : q = place ++ [name]
  · rw [if_pos hq, hq]
    simp [h.free]
  · rw [if_neg hq]

theorem walkTo_kept {front' : String} {place' : Place} (hwalk : t.walkTo front' = .ok place') :
    t'.walkTo front' = .ok place' :=
  walkTo_mono h.home (fun q => (h.directory_iff q).mpr) hwalk

theorem read_iff (hfront : Path.IsFolder front) {other : String} (hother : IsEntryName other) {found : ByteArray} :
    t'.read (front ++ other) = .ok found ↔
      if other = name then found = content else t.read (front ++ other) = .ok found := by
  have hread : t'.read (front ++ other) = .ok found ↔ checkPath (front ++ other) = .ok () ∧
      other.utf8ByteSize ≤ longestName ∧ t'.node? (place ++ [other]) = some (.file found) := by
    rw [read_eq_ok_iff hfront hother]
    simp only [h.walkTo_kept h.walk, Except.ok.injEq, exists_eq_left']
  rw [hread, h.node?]
  by_cases heq : other = name
  · subst heq
    simp [h.check, h.short, eq_comm]
  · have hplace : place ++ [other] ≠ place ++ [name] := by simpa using heq
    rw [if_neg hplace, if_neg heq, read_eq_ok_iff hfront hother]
    simp only [h.walk, Except.ok.injEq, exists_eq_left']

end Writes

/-! ## Making a folder -/

theorem walkTo_folder (t : FileTree) (dir : String) :
    t.walkTo (Path.folder dir) = t.walk (t.startOf dir) (Path.segments dir) := by
  unfold walkTo startOf
  rw [Path.segments_folder, Path.isAbsolute_folder]

theorem read_of_missing {t : FileTree} {dir name : String} (hname : IsEntryName name)
    (hcheck : checkPath (Path.folder dir ++ name) = .ok ())
    (hmissing : ∀ more, more ≠ [] → t.walk (t.startOf dir) (Path.segments dir ++ more) = .error .notFound) :
    t.read (Path.folder dir ++ name) = .error .notFound := by
  have hwalk := hmissing [name] (by simp)
  rw [walk_append, ← walkTo_folder] at hwalk
  simp only [walk_singleton] at hwalk
  unfold read
  rw [locate_entry (Path.isFolder_folder dir) hname, hcheck]
  show (t.walkTo (Path.folder dir) >>= fun place => t.enter place name) >>= _ = _
  rw [hwalk]
  rfl

theorem createDirectories_spec (t : FileTree) (dir : String) :
    Grows t (t.createDirectories dir).2 ∧
    ((t.createDirectories dir).1 = .ok () →
      (∃ place, (t.createDirectories dir).2.walkTo (Path.folder dir) = .ok place) ∧
      ((t.createDirectories dir).2 = t ∨
        ∀ name, IsEntryName name → checkPath (Path.folder dir ++ name) = .ok () →
          t.read (Path.folder dir ++ name) = .error .notFound)) := by
  by_cases hdir : dir = ""
  · subst hdir
    exact ⟨Grows.refl t, fun _ => ⟨⟨_, rfl⟩, .inl rfl⟩⟩
  · unfold createDirectories
    rw [if_neg hdir]
    cases checkPath dir with
    | error e => exact ⟨Grows.refl t, fun h => by cases h⟩
    | ok _ =>
      obtain ⟨hgrows, hok⟩ := createFrom_spec t (t.startOf dir) false (Path.segments dir)
      refine ⟨hgrows, ?_⟩
      intro h
      obtain ⟨⟨place, hwalk⟩, hbefore⟩ := hok h
      refine ⟨⟨place, ?_⟩, hbefore.imp_right ?_⟩
      · show (t.createFrom (t.startOf dir) false (Path.segments dir)).2.walkTo (Path.folder dir) = .ok place
        rw [walkTo_folder, startOf_congr hgrows.home]
        exact hwalk
      · intro hmissing name hname hcheck
        exact read_of_missing hname hcheck hmissing

theorem grows_createDirectories (t : FileTree) (dir : String) : Grows t (t.createDirectories dir).2 :=
  (createDirectories_spec t dir).1

theorem createDirectories_of_walkTo {t : FileTree} {dir : String} {place : Place}
    (hcheck : dir ≠ "" → checkPath dir = .ok ()) (hwalk : t.walkTo (Path.folder dir) = .ok place)
    (hplace : t.node? place = some .directory) : t.createDirectories dir = (.ok (), t) := by
  unfold createDirectories
  by_cases hdir : dir = ""
  · rw [if_pos hdir]
  · rw [walkTo_folder] at hwalk
    rw [if_neg hdir, hcheck hdir]
    exact createFrom_of_walk hwalk hplace false

theorem createDirectories_again {t t' : FileTree} {dir : String} (h : (t.createDirectories dir).1 = .ok ())
    (hhome : t'.home = t.home)
    (hkept : ∀ q, (t.createDirectories dir).2.node? q = some .directory → t'.node? q = some .directory) :
    t'.createDirectories dir = (.ok (), t') := by
  unfold createDirectories at h hkept ⊢
  by_cases hdir : dir = ""
  · rw [if_pos hdir]
  · rw [if_neg hdir] at h hkept ⊢
    cases hcheck : checkPath dir with
    | error e =>
      rw [hcheck] at h
      cases h
    | ok _ =>
      rw [hcheck] at h hkept
      rw [startOf_congr hhome]
      exact createFrom_again h hkept false

/-! ## Runs -/

theorem run_read (path : String) (t : FileTree) :
    (FileSystem.read path : StateM FileTree _).run t = (t.read path, t) := rfl

theorem run_createDirectories (dir : String) (t : FileTree) :
    (FileSystem.createDirectories dir : StateM FileTree _).run t = t.createDirectories dir := rfl

theorem run_write_eq_ok {path : String} {content : ByteArray} {t t' : FileTree} :
    (FileSystem.write path content : StateM FileTree _).run t = (.ok (), t') ↔ t.write path content = .ok t' := by
  simp only [FileSystem.write, StateT.run]
  cases t.write path content with
  | error error =>
    constructor
    · intro h
      cases h
    · intro h
      cases h
  | ok written =>
    constructor
    · intro h
      cases h
      rfl
    · intro h
      cases h
      rfl

theorem run_readText (path : String) (t : FileTree) : ∃ outcome,
    (FileSystem.readText path : StateM FileTree _).run t = (outcome, t) ∧
      ∀ text, outcome = .ok text ↔ t.read path = .ok text.toUTF8 := by
  unfold FileSystem.readText
  rw [run_bind_of_run (run_read path t)]
  cases t.read path with
  | error e => exact ⟨.error e, rfl, by simp⟩
  | ok bytes =>
    dsimp only
    have hdecoded : ∀ text, Except.ok bytes = (.ok text.toUTF8 : Except FileError ByteArray) ↔
        decodeUtf8 bytes = .ok text := by
      intro text
      rw [Except.ok.injEq, decodeUtf8_eq_ok]
    simp only [hdecoded]
    cases decodeUtf8 bytes with
    | error fault => exact ⟨.error .notText, rfl, by simp⟩
    | ok found => exact ⟨.ok found, rfl, by simp⟩

end FileTree

end TableLayout
