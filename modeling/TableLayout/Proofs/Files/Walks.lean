import TableLayout.Proofs.Files.Places
import TableLayout.Proofs.Traversal

/-!
# Walks through a file tree

A walk sees only which places are directories, so that it leads to the same place in a tree that has more of
them. Making directories adds some on the way, and changes nothing else.
-/

namespace TableLayout.FileTree

variable {t t' : FileTree} {here place : Place} {segment : String} {segments : List String}

/-! ## Steps -/

theorem directory_of_enter (h : t.enter here segment = .ok place) : t.node? here = some .directory := by
  unfold enter at h
  cases hn : t.node? here with
  | none => simp [hn] at h
  | some node =>
    cases node with
    | file content => simp [hn] at h
    | directory => rfl

theorem enter_congr (h : t'.node? here = t.node? here) (segment : String) :
    t'.enter here segment = t.enter here segment := by
  unfold enter
  rw [h]

theorem enter_none (h : t.node? here = none) (segment : String) : t.enter here segment = .error .notFound := by
  unfold enter
  rw [h]

theorem eq_append_of_enter (h : t.enter here segment = .ok place) (hfree : t.node? place = none) :
    place = here ++ [segment] := by
  have hdirectory := directory_of_enter h
  unfold enter at h
  rw [hdirectory] at h
  dsimp only at h
  by_cases hdot : segment = "."
  · rw [if_pos hdot] at h
    cases h
    rw [hdirectory] at hfree
    cases hfree
  · rw [if_neg hdot] at h
    by_cases hdots : segment = ".."
    · rw [if_pos hdots] at h
      cases h
      rw [node?_dropLast hdirectory] at hfree
      cases hfree
    · rw [if_neg hdots] at h
      split at h
      · cases h
      · cases h
        rfl

/-! ## Walks -/

theorem walk_append (t : FileTree) (here : Place) (segments more : List String) :
    t.walk here (segments ++ more) = t.walk here segments >>= fun place => t.walk place more := by
  induction segments generalizing here with
  | nil => rfl
  | cons segment segments ih =>
    rw [List.cons_append, walk, walk]
    cases t.enter here segment with
    | error e => rfl
    | ok next => exact ih next

theorem walk_singleton (t : FileTree) (here : Place) (segment : String) :
    t.walk here [segment] = t.enter here segment := by
  rw [walk]
  cases t.enter here segment <;> rfl

theorem walk_cons_eq_ok : t.walk here (segment :: segments) = .ok place ↔
    ∃ next, t.enter here segment = .ok next ∧ t.walk next segments = .ok place := by
  rw [walk, bind_eq_ok]

theorem walk_mono (h : ∀ q, t.node? q = some .directory → t'.node? q = some .directory)
    (hwalk : t.walk here segments = .ok place) : t'.walk here segments = .ok place := by
  induction segments generalizing here with
  | nil => exact hwalk
  | cons segment segments ih =>
    obtain ⟨next, henter, hrest⟩ := walk_cons_eq_ok.mp hwalk
    have hdirectory := directory_of_enter henter
    have hsame : t'.enter here segment = .ok next := by
      rw [enter_congr (by rw [hdirectory, h here hdirectory]), henter]
    exact walk_cons_eq_ok.mpr ⟨next, hsame, ih hrest⟩

/-! ## New directories -/

/-- The tree `t'` has directories where `t` has nothing, and else the same. -/
structure Grows (t t' : FileTree) : Prop where
  home : t'.home = t.home
  node : ∀ q, t'.node? q = t.node? q ∨ t.node? q = none ∧ t'.node? q = some .directory

namespace Grows

theorem refl (t : FileTree) : Grows t t := ⟨rfl, fun _ => .inl rfl⟩

theorem trans {t'' : FileTree} (h : Grows t t') (h' : Grows t' t'') : Grows t t'' := by
  refine ⟨h'.home.trans h.home, ?_⟩
  intro q
  rcases h'.node q with e' | ⟨hnone, hdirectory⟩
  · rw [e']
    exact h.node q
  · rcases h.node q with e | ⟨hfree, hdirectory'⟩
    · exact .inr ⟨e ▸ hnone, hdirectory⟩
    · rw [hnone] at hdirectory'
      cases hdirectory'

theorem directory (h : Grows t t') {q : Place} (hq : t.node? q = some .directory) :
    t'.node? q = some .directory := by
  rcases h.node q with e | ⟨-, hdirectory⟩
  · rw [e, hq]
  · exact hdirectory

theorem file_iff (h : Grows t t') {q : Place} {content : ByteArray} :
    t'.node? q = some (.file content) ↔ t.node? q = some (.file content) := by
  rcases h.node q with e | ⟨hfree, hdirectory⟩
  · rw [e]
  · simp [hfree, hdirectory]

end Grows

theorem grows_put (h : t.enter here segment = .ok place) (hfree : t.node? place = none) :
    Grows t (t.put place .directory) := by
  have hplace := eq_append_of_enter h hfree
  subst hplace
  refine ⟨rfl, ?_⟩
  intro q
  rw [node?_put .directory (directory_of_enter h) (by simp [hfree])]
  by_cases hq : q = here ++ [segment]
  · rw [if_pos hq, hq]
    exact .inr ⟨hfree, rfl⟩
  · exact .inl (if_neg hq)

/-- Making directories only adds some. When it succeeds they can be walked, and they were there before unless a
walk through them found nothing. -/
theorem createFrom_spec (t : FileTree) (here : Place) (hasMade : Bool) (segments : List String) :
    Grows t (t.createFrom here hasMade segments).2 ∧
    ((t.createFrom here hasMade segments).1 = .ok () →
      (∃ place, (t.createFrom here hasMade segments).2.walk here segments = .ok place) ∧
      ((t.createFrom here hasMade segments).2 = t ∨
        ∀ more, more ≠ [] → t.walk here (segments ++ more) = .error .notFound)) := by
  induction segments generalizing t here hasMade with
  | nil => exact ⟨Grows.refl t, fun _ => ⟨⟨here, rfl⟩, .inl rfl⟩⟩
  | cons segment rest ih =>
    rw [createFrom]
    cases henter : t.enter here segment with
    | error e => exact ⟨Grows.refl t, fun h => by cases h⟩
    | ok next =>
      dsimp only
      cases hnode : t.node? next with
      | none =>
        dsimp only
        split
        · exact ⟨Grows.refl t, fun h => by cases h⟩
        · obtain ⟨hgrows, hok⟩ := ih (t.put next .directory) next true
          have hall := (grows_put henter hnode).trans hgrows
          refine ⟨hall, ?_⟩
          intro h
          obtain ⟨⟨place, hwalk⟩, -⟩ := hok h
          have hdirectory := directory_of_enter henter
          refine ⟨⟨place, walk_cons_eq_ok.mpr ⟨next, ?_, hwalk⟩⟩, .inr ?_⟩
          · rw [enter_congr (by rw [hdirectory, hall.directory hdirectory]), henter]
          · intro more hmore
            -- whatever follows is looked for below a place that is not taken
            have hne : rest ++ more ≠ [] := by simp [hmore]
            obtain ⟨first, others, heq⟩ := List.exists_cons_of_ne_nil hne
            rw [List.cons_append, walk, henter, heq]
            show t.walk next (first :: others) = _
            rw [walk, enter_none hnode]
            rfl
      | some node =>
        cases node with
        | file content => exact ⟨Grows.refl t, fun h => by cases h⟩
        | directory =>
          obtain ⟨hgrows, hok⟩ := ih t next hasMade
          refine ⟨hgrows, ?_⟩
          intro h
          obtain ⟨⟨place, hwalk⟩, hbefore⟩ := hok h
          have hdirectory := directory_of_enter henter
          refine ⟨⟨place, walk_cons_eq_ok.mpr ⟨next, ?_, hwalk⟩⟩, ?_⟩
          · rw [enter_congr (by rw [hdirectory, hgrows.directory hdirectory]), henter]
          · rcases hbefore with hsame | hmissing
            · exact .inl hsame
            · refine .inr ?_
              intro more hmore
              rw [List.cons_append, walk, henter]
              exact hmissing more hmore

/-- Directories that were made once are not made again where none of them is lost. -/
theorem createFrom_again {hasMade : Bool} (h : (t.createFrom here hasMade segments).1 = .ok ())
    (hkept : ∀ q, (t.createFrom here hasMade segments).2.node? q = some .directory → t'.node? q = some .directory)
    (hasMade' : Bool) : t'.createFrom here hasMade' segments = (.ok (), t') := by
  induction segments generalizing t here hasMade with
  | nil => rfl
  | cons segment rest ih =>
    have hgrows := (createFrom_spec t here hasMade (segment :: rest)).1
    rw [createFrom] at h hkept hgrows
    cases henter : t.enter here segment with
    | error e =>
      rw [henter] at h
      cases h
    | ok next =>
      have hdirectory := directory_of_enter henter
      have henter' : t'.enter here segment = .ok next := by
        rw [enter_congr (by rw [hdirectory]; exact hkept here (hgrows.directory hdirectory)), henter]
      rw [henter] at h hkept hgrows
      dsimp only at h hkept hgrows
      rw [createFrom, henter']
      dsimp only
      cases hnode : t.node? next with
      | none =>
        rw [hnode] at h hkept
        dsimp only at h hkept
        split at h
        · cases h
        · next hdots =>
          rw [if_neg hdots] at hkept
          have hplace := eq_append_of_enter henter hnode
          have hmade : (t.put next .directory).node? next = some .directory := by
            rw [hplace, node?_put .directory hdirectory (by simp [← hplace, hnode]), if_pos rfl]
          have hgrows' := (createFrom_spec (t.put next .directory) next true rest).1
          rw [hkept next (hgrows'.directory hmade)]
          exact ih h hkept
      | some node =>
        rw [hnode] at h hkept hgrows
        cases node with
        | file content => cases h
        | directory =>
          rw [hkept next (hgrows.directory hnode)]
          exact ih h hkept

theorem createFrom_of_walk (h : t.walk here segments = .ok place) (hplace : t.node? place = some .directory)
    (hasMade : Bool) : t.createFrom here hasMade segments = (.ok (), t) := by
  induction segments generalizing here with
  | nil => rfl
  | cons segment rest ih =>
    obtain ⟨next, henter, hrest⟩ := walk_cons_eq_ok.mp h
    have hnext : t.node? next = some .directory := by
      cases rest with
      | nil =>
        cases hrest
        exact hplace
      | cons second rest =>
        obtain ⟨_, hsecond, -⟩ := walk_cons_eq_ok.mp hrest
        exact directory_of_enter hsecond
    rw [createFrom, henter]
    dsimp only
    rw [hnext]
    exact ih hrest

end TableLayout.FileTree
