import TableLayout.DisplayNames
import TableLayout.Proofs.Overwriting
import TableLayout.Proofs.Text.Cutting
import TableLayout.Proofs.Text.LetterCase

/-!
# Look-ups of display names

A look-up does not see the case of ASCII letters, and finds what was inserted last. Where every name is its own
spelling, what is found differs from what is looked up in case only.
-/

namespace TableLayout.DisplayNames

open Text

theorem asciiLower_of_no_upper {s : List Char} (h : ∀ c ∈ s, c.isUpper = false) : asciiLower s = s := by
  have hself : ∀ c ∈ s, c.toLower = c := by
    intro c hc
    have hc' := h c hc
    unfold Char.isUpper at hc'
    unfold Char.toLower
    exact dif_neg (of_decide_eq_false hc')
  unfold asciiLower
  rw [List.map_congr_left hself, List.map_id']

theorem key_of_no_upper {name : String} (h : ∀ c ∈ name.toList, c.isUpper = false) : key name = name := by
  unfold key
  rw [asciiLower_of_no_upper h, String.ofList_toList]

/-! ## Names up to case -/

def SameName (name other : String) : Prop := List.Forall₂ SameLetter name.toList other.toList

theorem key_eq_iff {name other : String} : key name = key other ↔ SameName name other := by
  unfold key SameName
  rw [String.ofList_inj, asciiLower_eq_iff]

instance (name other : String) : Decidable (SameName name other) := decidable_of_iff _ key_eq_iff

/-! ## Insertions -/

/-- What the lines of a text insert: a name and a spelling with a semicolon between them, or one for both. -/
inductive LinesInsert : List (List Char) → List (String × String) → Prop
  | nil : LinesInsert [] []
  | blank {line : List Char} {ls : List (List Char)} {given : List (String × String)} (hline : trim line = [])
      (hrest : LinesInsert ls given) : LinesInsert (line :: ls) given
  | pair {line internal friendly : List Char} {ls : List (List Char)} {given : List (String × String)}
      (hline : trim line = internal ++ ';' :: friendly) (hinternal : ';' ∉ internal) (hrest : LinesInsert ls given) :
      LinesInsert (line :: ls) ((String.ofList (trim internal), String.ofList (trim friendly)) :: given)
  | bare {line : List Char} {ls : List (List Char)} {given : List (String × String)} (hne : trim line ≠ [])
      (hline : ';' ∉ trim line) (hrest : LinesInsert ls given) :
      LinesInsert (line :: ls) ((String.ofList (trim line), String.ofList (trim line)) :: given)

theorem linesInsert_iff {ls : List (List Char)} {given : List (String × String)} :
    LinesInsert ls given ↔ ((ls.map trim).filter (!·.isEmpty)).map readLine = given := by
  constructor
  · intro h
    induction h with
    | nil => rfl
    | blank hline _ ih => simp [hline, ← ih]
    | pair hline hinternal _ ih =>
      simp [hline, readLine, cutAt_append hinternal, ← ih]
    | bare hne hline _ ih => simp [hne, readLine, cutAt_eq_none hline, ← ih]
  · rintro rfl
    induction ls with
    | nil => exact .nil
    | cons line ls ih =>
      by_cases hblank : trim line = []
      · simpa [hblank] using .blank hblank ih
      · have hlines : ((line :: ls).map trim).filter (!·.isEmpty) = trim line :: (ls.map trim).filter (!·.isEmpty) := by
          simp [hblank]
        rw [hlines, List.map_cons]
        unfold readLine
        cases hcut : cutAt ';' (trim line) with
        | none => exact .bare hblank (cutAt_eq_none_iff.mp hcut) ih
        | some parts =>
          obtain ⟨hline, hinternal⟩ := cutAt_eq_some.mp hcut
          exact .pair hline hinternal ih

/-- The insertions that made the names what they are, in order. -/
inductive FilledBy : DisplayNames → List (String × String) → Prop
  | text {text : String} {given : List (String × String)} (h : LinesInsert (lines text.toList) given) :
      FilledBy (ofText text) given
  | names (names : List String) : FilledBy (ofNames names) (names.map fun name => (name, name))
  | insert {d : DisplayNames} {given : List (String × String)} (h : FilledBy d given) (internal friendly : String) :
      FilledBy (d.insert internal friendly) (given ++ [(internal, friendly)])

/-- An insertion overrules the earlier ones under its key. -/
theorem spellings_overwrites (k : String) : Overwrites (fun d : DisplayNames => d.spellings[k]?)
    (fun d e => d.insert e.1 e.2) (fun (e : String × String) friendly => key e.1 = k ∧ e.2 = friendly) where
  told d e friendly h := by
    obtain ⟨rfl, rfl⟩ := h
    exact Std.TreeMap.getElem?_insert_self
  silent d e h := by
    unfold insert
    rw [Std.TreeMap.getElem?_insert, if_neg]
    intro hkey
    exact h _ ⟨Std.compare_eq_iff_eq.mp hkey, rfl⟩

theorem spellings_empty (k : String) : empty.spellings[k]? = none := Std.TreeMap.getElem?_emptyc

section
variable {d : DisplayNames} {given : List (String × String)} (h : d.FilledBy given)
include h

theorem FilledBy.eq_foldl : d = given.foldl (fun d e => d.insert e.1 e.2) empty := by
  induction h with
  | text h =>
    unfold ofText
    rw [← linesInsert_iff.mp h, List.foldl_map]
  | names names =>
    unfold ofNames
    rw [List.foldl_map]
  | insert h internal friendly ih => rw [List.foldl_append, ← ih]; rfl

theorem FilledBy.spellings_eq_none {k : String} : d.spellings[k]? = none ↔ ∀ e ∈ given, key e.1 ≠ k := by
  rw [h.eq_foldl, (spellings_overwrites k).foldl_eq_none_iff (spellings_empty k)]
  simp

theorem FilledBy.lookup_eq_none {name : String} : d.lookup name = none ↔ ∀ e ∈ given, ¬SameName e.1 name := by
  unfold lookup
  simp only [h.spellings_eq_none, ne_eq, key_eq_iff]

theorem FilledBy.lookup_eq_some {name friendly : String} : d.lookup name = some friendly ↔
    ∃ e, IsLast (fun e => SameName e.1 name) given e ∧ e.2 = friendly := by
  unfold lookup
  rw [h.eq_foldl, (spellings_overwrites (key name)).foldl_eq_some_iff (spellings_empty _)]
  simp only [exists_and_left, exists_eq', and_true, key_eq_iff]
  exact exists_congr fun e => and_congr_right fun hlast => and_iff_right hlast.prop

theorem FilledBy.exists_size : ∃ distinct : List String, (∀ name ∈ distinct, ∃ e ∈ given, e.1 = name) ∧
    distinct.Pairwise (fun name other => ¬SameName name other) ∧
    (∀ e ∈ given, ∃ name ∈ distinct, SameName name e.1) ∧ d.size = distinct.length := by
  have hkeys : ∀ k, k ∈ d.spellings.keys ↔ ∃ e ∈ given, key e.1 = k := by
    intro k
    rw [Std.TreeMap.mem_keys, Std.TreeMap.mem_iff_isSome_getElem?, Option.isSome_iff_ne_none, ne_eq,
      h.spellings_eq_none]
    simp
  -- one of the names for each key
  choose! entry hentry using fun k hk => (hkeys k).mp hk
  have hmap : (d.spellings.keys.map fun k => (entry k).1).map key = d.spellings.keys := by
    rw [List.map_map]
    exact (List.map_congr_left fun k hk => (hentry k hk).2).trans (List.map_id' _)
  refine ⟨d.spellings.keys.map fun k => (entry k).1, ?_, ?_, ?_, ?_⟩
  · intro name hname
    obtain ⟨k, hk, rfl⟩ := List.mem_map.mp hname
    exact ⟨entry k, (hentry k hk).1, rfl⟩
  · have hnodup : d.spellings.keys.Pairwise (· ≠ ·) := Std.TreeMap.nodup_keys
    rw [← hmap, List.pairwise_map] at hnodup
    exact hnodup.imp fun hne hsame => hne (key_eq_iff.mpr hsame)
  · intro e he
    have hk := (hkeys (key e.1)).mpr ⟨e, he, rfl⟩
    exact ⟨_, List.mem_map_of_mem hk, key_eq_iff.mp (hentry _ hk).2⟩
  · rw [List.length_map, Std.TreeMap.length_keys]
    rfl

end

def IsOwn (d : DisplayNames) : Prop := ∀ name friendly, d.lookup name = some friendly → key friendly = key name

theorem isOwn_ofNames (names : List String) : (ofNames names).IsOwn := by
  intro name friendly h
  obtain ⟨e, hlast, rfl⟩ := (FilledBy.names names).lookup_eq_some.mp h
  obtain ⟨own, -, rfl⟩ := List.mem_map.mp hlast.mem
  exact key_eq_iff.mpr hlast.prop

end TableLayout.DisplayNames
