import Mathlib.Control.Monad.Writer
import TableLayout.Proofs.Source.Stored

/-!
# What a fetch asks for

The file system notes what is asked of it. A name that can be a table's is asked for under one path of the directory
or the cache, its own, which leads to an entry there. Any other name is refused with nothing asked at all.
-/

namespace TableLayout

open Text

inductive Access
  | read (path : String)
  | write (path : String) (content : ByteArray)
  | createDirectories (dir : String)
  | list (dir : String)

/-- Computations that note what they ask of a file system with states in `σ`. -/
abbrev Traced (σ : Type) := WriterT (List Access) (StateM σ)

namespace Traced
variable {σ α β : Type}

def note (access : Access) (act : StateM σ α) : Traced σ α := WriterT.mk do
  let answer ← act
  return (answer, [access])

instance [FileSystem (StateM σ)] : FileSystem (Traced σ) where
  read path := note (.read path) (FileSystem.read path)
  write path content := note (.write path content) (FileSystem.write path content)
  createDirectories dir := note (.createDirectories dir) (FileSystem.createDirectories dir)
  list dir := note (.list dir) (FileSystem.list dir)

def accesses (x : Traced σ α) (s : σ) : List Access := (x.run.run s).1.2

theorem accesses_pure (a : α) (s : σ) : accesses (pure a) s = [] := rfl

theorem accesses_bind (x : Traced σ α) (next : α → Traced σ β) (s : σ) :
    ∃ a s', accesses (x >>= next) s = accesses x s ++ accesses (next a) s' :=
  ⟨(x.run.run s).1.1, (x.run.run s).2, rfl⟩

end Traced

open Traced (accesses)

/-! ## Names -/

def IsTableName (name : String) : Prop := name ≠ "" ∧ ∀ c ∈ name.toList, c.isAlphanum = true ∨ c = '_'

theorem isTableName_iff {name : String} :
    IsTableName name ↔ name.toList ≠ [] ∧ name.toList.all isNameChar = true := by
  simp [IsTableName, isNameChar]

instance (name : String) : Decidable (IsTableName name) := decidable_of_iff _ isTableName_iff.symm

theorem documentFile_of_isTableName {table : String} (h : IsTableName (trimmed table)) :
    documentFile table = .ok (trimmed table ++ ".dbd") := by
  rw [isTableName_iff, trimmed, String.toList_ofList] at h
  unfold documentFile
  dsimp only
  rw [if_neg (by simpa using h.1), if_pos h.2]
  rfl

theorem documentFile_of_not_isTableName {table : String} (h : ¬ IsTableName (trimmed table)) :
    ∃ fault, documentFile table = .error fault := by
  cases hfile : documentFile table with
  | error fault => exact ⟨fault, rfl⟩
  | ok file =>
    obtain ⟨hne, hall, -⟩ := documentFile_eq_ok hfile
    refine absurd ⟨hne, ?_⟩ h
    intro c hc
    simpa [isNameChar] using hall c hc

theorem locate_documentPath {dir table path : String} {t : FileTree} {place : Place}
    (hpath : documentPath dir table = .ok path) (hplace : t.locate path = .ok place) :
    ∃ folder, t.walkTo (Path.folder dir) = .ok folder ∧ place = folder ++ [trimmed table ++ ".dbd"] := by
  obtain ⟨file, hfile, rfl⟩ := Cache.path_eq_ok (c := ⟨dir, false⟩).mp hpath
  obtain ⟨-, -, folder, hwalk, -, rfl⟩ :=
    (FileTree.locate_eq_ok_iff (Path.isFolder_folder dir) (Cache.isEntryName hfile)).mp hplace
  obtain ⟨-, -, rfl⟩ := documentFile_eq_ok hfile
  exact ⟨folder, hwalk, rfl⟩

theorem documentPath_inj {dir table other path : String} (h : documentPath dir table = .ok path)
    (h' : documentPath dir other = .ok path) : trimmed table = trimmed other := by
  obtain ⟨file, hfile, rfl⟩ := Cache.path_eq_ok (c := ⟨dir, false⟩).mp h
  obtain ⟨file', hfile', heq⟩ := Cache.path_eq_ok (c := ⟨dir, false⟩).mp h'
  exact (documentFile_inj hfile hfile').mp (String.append_right_inj _ |>.mp heq).symm

/-! ## Accesses of a fetch -/

section
variable {σ : Type} [FileSystem (StateM σ)]

theorem accesses_readDocumentAt (path : String) (s : σ) : accesses (readDocumentAt path) s = [.read path] := by
  unfold readDocumentAt
  obtain ⟨outcome, s', haccesses⟩ := Traced.accesses_bind (σ := σ) (FileSystem.read path) _ s
  rw [haccesses]
  cases outcome <;> rfl

theorem accesses_fetch_directory {dir table path : String} (h : documentPath dir table = .ok path) (s : σ) :
    accesses ((Origin.directory dir).fetch table) s = [.read path] := by
  unfold Origin.fetch fetchFromDirectory
  dsimp only
  rw [h]
  obtain ⟨outcome, s', haccesses⟩ := Traced.accesses_bind (σ := σ) (readDocumentAt path) _ s
  rw [haccesses, accesses_readDocumentAt]
  rfl

namespace Cache
variable (c : Cache) (path : String) (s : σ)

theorem accesses_store (document : ByteArray) :
    (accesses (c.store path document) s).Sublist [.createDirectories c.dir, .write path document] := by
  unfold store
  obtain ⟨made, s₁, hmade⟩ := Traced.accesses_bind (σ := σ) (FileSystem.createDirectories c.dir) _ s
  rw [hmade]
  cases made with
  | error error => exact List.sublist_append_left [Access.createDirectories c.dir] [Access.write path document]
  | ok done =>
    obtain ⟨written, s₂, hwritten⟩ := Traced.accesses_bind (σ := σ) (FileSystem.write path document) _ s₁
    rw [hwritten]
    cases written <;> exact List.Sublist.refl _

theorem accesses_fill (inner : String → Traced σ Fetched) (table : String) : ∃ document,
    (accesses (c.fill inner table path) s).Sublist
      (accesses (inner table) s ++ [.createDirectories c.dir, .write path document]) := by
  unfold fill
  dsimp only
  obtain ⟨⟨outcome, notices⟩, s₁, hinner⟩ := Traced.accesses_bind (σ := σ) (inner table) _ s
  rw [hinner]
  cases outcome with
  | error fault => exact ⟨⟨#[]⟩, (List.Sublist.refl _).append (List.nil_sublist _)⟩
  | ok document =>
    refine ⟨document, (List.Sublist.refl _).append ?_⟩
    obtain ⟨stored, s₂, hstored⟩ := Traced.accesses_bind (σ := σ) (c.store path document) _ s₁
    rw [hstored, Traced.accesses_pure, List.append_nil]
    exact c.accesses_store path s₁ document

theorem accesses_fetch {table path : String} (h : c.path table = .ok path) (inner : String → Traced σ Fetched) :
    ∃ s' document, (accesses (c.fetch inner table) s).Sublist
      (.read path :: accesses (inner table) s' ++ [.createDirectories c.dir, .write path document]) := by
  unfold fetch
  rw [h]
  dsimp only
  by_cases hrefresh : c.refresh = true
  · obtain ⟨document, hfill⟩ := c.accesses_fill path s inner table
    rw [if_pos hrefresh]
    exact ⟨s, document, hfill.cons _⟩
  · obtain ⟨found, s', hfound⟩ := Traced.accesses_bind (σ := σ) (FileSystem.read path) _ s
    rw [if_neg hrefresh, hfound]
    obtain ⟨document, hfill⟩ := c.accesses_fill path s' inner table
    refine ⟨s', document, ?_⟩
    apply List.Sublist.cons_cons
    -- a copy ends the fetch, and so does every error but that of a missing file
    cases found with
    | ok copy => exact List.nil_sublist _
    | error error =>
      cases error with
      | notFound => exact hfill
      | _ => exact List.nil_sublist _

end Cache

end

/-! ## Names in their directories -/

/-- No name leads out of a directory. The document of a table, with white space around its name or not, is read under
the table's own path in a directory, and is read and written under that path in a cache; the path leads to an entry of
the directory or nowhere. Any other name is refused without a look at a file or a question to another source. -/
theorem name_confined (table : String) :
    (IsTableName (trimmed table) →
      (∀ (σ : Type) [FileSystem (StateM σ)] (s : σ),
        (∀ dir, accesses ((Origin.directory dir).fetch table) s =
          [.read (Path.join dir (trimmed table ++ ".dbd"))]) ∧
        ∀ (c : Cache) (inner : String → Traced σ Fetched), ∃ s' document,
          (accesses (c.fetch inner table) s).Sublist
            (.read (Path.join c.dir (trimmed table ++ ".dbd")) :: accesses (inner table) s' ++
              [.createDirectories c.dir, .write (Path.join c.dir (trimmed table ++ ".dbd")) document])) ∧
      (∀ c : Cache, c.path table = .ok (Path.join c.dir (trimmed table ++ ".dbd"))) ∧
      (∀ dir (t : FileTree) place, t.locate (Path.join dir (trimmed table ++ ".dbd")) = .ok place →
        ∃ folder, t.walkTo (Path.folder dir) = .ok folder ∧ place = folder ++ [trimmed table ++ ".dbd"]) ∧
      ∀ dir other, IsTableName (trimmed other) →
        Path.join dir (trimmed table ++ ".dbd") = Path.join dir (trimmed other ++ ".dbd") →
        trimmed table = trimmed other) ∧
    (¬ IsTableName (trimmed table) → ∃ fault, (∀ c : Cache, c.path table = .error fault) ∧
      (∀ base, documentUrl base table = .error fault) ∧
      ∀ (m : Type → Type) [Monad m] [LawfulMonad m] [FileSystem m],
        (∀ o : Origin, o.fetch table = (pure ⟨.error fault, []⟩ : m Fetched)) ∧
        ∀ (c : Cache) (inner : String → m Fetched), c.fetch inner table = pure ⟨.error fault, []⟩) := by
  constructor
  · intro hname
    have hpath : ∀ dir, documentPath dir table = .ok (Path.join dir (trimmed table ++ ".dbd")) :=
      fun dir => map_eq_ok.mpr ⟨_, documentFile_of_isTableName hname, rfl⟩
    refine ⟨?_, fun c => hpath c.dir, fun dir t place => locate_documentPath (hpath dir), ?_⟩
    · intro σ _ s
      exact ⟨fun dir => accesses_fetch_directory (hpath dir) s, fun c inner => c.accesses_fetch s (hpath c.dir) inner⟩
    · intro dir other hother heq
      apply documentPath_inj (hpath dir)
      rw [heq]
      exact map_eq_ok.mpr ⟨_, documentFile_of_isTableName hother, rfl⟩
  · intro hname
    obtain ⟨fault, hfile⟩ := documentFile_of_not_isTableName hname
    refine ⟨fault, fun c => documentPath_of_badName hfile c.dir, documentUrl_of_badName hfile, ?_⟩
    intro m _ _ _
    exact ⟨fun o => o.fetch_of_badName hfile, fun c inner => c.fetch_of_badName inner hfile⟩

theorem name_confined_item : IsTableName (trimmed " Item_2\n") ∧
    (∀ t : FileTree, accesses ((Origin.directory "defs/").fetch " Item_2\n") t = [.read "defs/Item_2.dbd"]) ∧
    ¬ IsTableName (trimmed "../Item") ∧
    ∀ (c : Cache) (inner : String → StateM FileTree Fetched) (t : FileTree),
      (c.fetch inner "../Item").run t = (⟨.error (.badName "../Item"), []⟩, t) := by
  have hgood : IsTableName (trimmed " Item_2\n") := by decide +kernel
  have hbad : ¬ IsTableName (trimmed "../Item") := by decide +kernel
  obtain ⟨haccesses, -⟩ := (name_confined " Item_2\n").1 hgood
  obtain ⟨fault, hpath, -, hrefused⟩ := (name_confined "../Item").2 hbad
  have hfault : (Cache.mk "" false).path "../Item" = .error (.badName "../Item") := by decide +kernel
  refine ⟨hgood, ?_, hbad, ?_⟩
  · intro t
    rw [(haccesses FileTree t).1 "defs/"]
    have hfile : Path.join "defs/" (trimmed " Item_2\n" ++ ".dbd") = "defs/Item_2.dbd" := by decide +kernel
    rw [hfile]
  · intro c inner t
    rw [(hrefused (StateM FileTree)).2 c inner, Except.error.inj ((hpath _).symm.trans hfault)]
    rfl

end TableLayout
