import TableLayout.Proofs.DisplayNames

/-!
# Names of files at paths

A path is looked up by the stem of its file: neither the directories count, nor which slashes stand between them, nor
the case of ASCII letters. With that, all look-ups are told by the insertions.
-/

namespace TableLayout.DisplayNames

open Text

def IsSlash (c : Char) : Prop := c = '/' ∨ c = '\\'

instance (c : Char) : Decidable (IsSlash c) := inferInstanceAs (Decidable (_ ∨ _))

theorem isSlash_iff {c : Char} : IsSlash c ↔ (c != '/' && c != '\\') = false := by
  simp [IsSlash, ← or_iff_not_imp_left]

theorem not_isSlash_iff {c : Char} : ¬IsSlash c ↔ (c != '/' && c != '\\') = true := by
  rw [isSlash_iff, Bool.not_eq_false]

/-- The file at a path: what follows the last slash of either kind. -/
def IsFile (path file : List Char) : Prop :=
  (∀ c ∈ file, ¬IsSlash c) ∧ (path = file ∨ ∃ dir slash, path = dir ++ slash :: file ∧ IsSlash slash)

/-- The stem of a file: what precedes its last dot, or all of it. -/
def IsStem (file stem : List Char) : Prop :=
  (file = stem ∧ '.' ∉ file) ∨ ∃ ending, file = stem ++ '.' :: ending ∧ '.' ∉ ending

theorem isFile_iff {path file : List Char} : IsFile path file ↔ fileName path = file := by
  unfold fileName
  constructor
  · rintro ⟨hfile, hpath⟩
    have hall : ∀ c ∈ file.reverse, (c != '/' && c != '\\') = true :=
      fun c hc => not_isSlash_iff.mp (hfile c (List.mem_reverse.mp hc))
    rcases hpath with rfl | ⟨dir, slash, rfl, hslash⟩
    · rw [List.takeWhile_eq_self_iff.mpr hall, List.reverse_reverse]
    · have hreverse : (dir ++ slash :: file).reverse = file.reverse ++ slash :: dir.reverse := by simp
      rw [hreverse, takeWhile_append_stop hall (by simpa using isSlash_iff.mp hslash), List.reverse_reverse]
  · rintro rfl
    constructor
    · intro c hc
      have hpasses := List.mem_takeWhile_imp (List.mem_reverse.mp hc)
      exact not_isSlash_iff.mpr hpasses
    · have hpath := List.takeWhile_append_dropWhile (p := fun c => c != '/' && c != '\\') (l := path.reverse)
      cases hrest : path.reverse.dropWhile fun c => c != '/' && c != '\\' with
      | nil =>
        rw [hrest, List.append_nil] at hpath
        exact .inl (by rw [hpath, List.reverse_reverse])
      | cons slash dir =>
        have hslash := List.head?_dropWhile_not (fun c => c != '/' && c != '\\') path.reverse
        rw [hrest] at hpath hslash
        refine .inr ⟨dir.reverse, slash, ?_, isSlash_iff.mpr hslash⟩
        have hback := congrArg List.reverse hpath
        simpa using hback.symm

theorem isStem_iff {file s : List Char} : IsStem file s ↔ stem file = s := by
  constructor
  · rintro (⟨rfl, hdot⟩ | ⟨ending, rfl, hending⟩)
    · unfold stem
      rw [cutAt_eq_none (by simpa using hdot)]
    · have hreverse : (s ++ '.' :: ending).reverse = ending.reverse ++ '.' :: s.reverse := by simp
      unfold stem
      rw [hreverse, cutAt_append (by simpa using hending)]
      exact List.reverse_reverse s
  · rintro rfl
    unfold stem
    cases hcut : cutAt '.' file.reverse with
    | none => exact .inl ⟨rfl, by simpa using cutAt_eq_none_iff.mp hcut⟩
    | some parts =>
      obtain ⟨ending, before⟩ := parts
      obtain ⟨hfile, hending⟩ := cutAt_eq_some.mp hcut
      refine .inr ⟨ending.reverse, ?_, by simpa using hending⟩
      rw [← List.reverse_reverse file, hfile]
      simp

/-! ## Paths that lead to the same name -/

theorem fileName_append (dir path : List Char) {slash : Char} (hslash : IsSlash slash) :
    fileName (dir ++ slash :: path) = fileName path := by
  obtain ⟨hfile, hpath⟩ := isFile_iff.mpr (rfl : fileName path = _)
  apply isFile_iff.mp
  refine ⟨hfile, .inr ?_⟩
  rcases hpath with hpath | ⟨inner, slash', hpath, hslash'⟩
  · exact ⟨dir, slash, by rw [← hpath], hslash⟩
  · refine ⟨dir ++ slash :: inner, slash', ?_, hslash'⟩
    rw [List.append_assoc, List.cons_append, ← hpath]

def SamePath (path other : String) : Prop :=
  List.Forall₂ (fun c d => SameLetter c d ∨ IsSlash c ∧ IsSlash d) path.toList other.toList

instance (path other : String) : Decidable (SamePath path other) := inferInstanceAs (Decidable (List.Forall₂ ..))

def plainChar (c : Char) : Char := if c = '\\' then '/' else c.toLower

theorem plainChar_of_isSlash {c : Char} (h : IsSlash c) : plainChar c = '/' := by
  rcases h with rfl | rfl <;> decide

theorem plainChar_of_not_isSlash {c : Char} (h : ¬IsSlash c) : plainChar c = c.toLower := by
  unfold plainChar
  rw [if_neg fun e => h (.inr e)]

theorem isSlash_toLower {c : Char} : IsSlash c.toLower ↔ IsSlash c := by
  unfold IsSlash
  rw [toLower_eq_mark (by decide), toLower_eq_mark (by decide)]

theorem isSlash_plainChar {c : Char} : IsSlash (plainChar c) ↔ IsSlash c := by
  by_cases h : IsSlash c
  · rw [plainChar_of_isSlash h]
    exact iff_of_true (.inl rfl) h
  · rw [plainChar_of_not_isSlash h, isSlash_toLower]

theorem plainChar_eq_of_sameLetter {c d : Char} (h : SameLetter c d) : plainChar c = plainChar d := by
  have hlower := toLower_eq_iff.mpr h
  by_cases hc : IsSlash c
  · have hd : IsSlash d := by rwa [← isSlash_toLower, ← hlower, isSlash_toLower]
    rw [plainChar_of_isSlash hc, plainChar_of_isSlash hd]
  · have hd : ¬IsSlash d := by rwa [← isSlash_toLower, ← hlower, isSlash_toLower]
    rw [plainChar_of_not_isSlash hc, plainChar_of_not_isSlash hd, hlower]

theorem SamePath.map_plainChar {path other : String} (h : SamePath path other) :
    path.toList.map plainChar = other.toList.map plainChar := by
  rw [← List.forall₂_eq_eq_eq, List.forall₂_map_left_iff, List.forall₂_map_right_iff]
  apply List.Forall₂.imp _ h
  rintro c d (hletter | ⟨hc, hd⟩)
  · exact plainChar_eq_of_sameLetter hletter
  · rw [plainChar_of_isSlash hc, plainChar_of_isSlash hd]

theorem fileName_map_plainChar (path : List Char) :
    fileName (path.map plainChar) = asciiLower (fileName path) := by
  obtain ⟨hfile, hpath⟩ := isFile_iff.mpr (rfl : fileName path = _)
  have hlower : asciiLower (fileName path) = (fileName path).map plainChar :=
    List.map_congr_left fun c hc => (plainChar_of_not_isSlash (hfile c hc)).symm
  rw [hlower]
  apply isFile_iff.mp
  constructor
  · intro c hc
    obtain ⟨d, hd, rfl⟩ := List.mem_map.mp hc
    exact mt isSlash_plainChar.mp (hfile d hd)
  · rcases hpath with hpath | ⟨dir, slash, hpath, hslash⟩
    · exact .inl (by rw [← hpath])
    · refine .inr ⟨dir.map plainChar, plainChar slash, ?_, isSlash_plainChar.mpr hslash⟩
      rw [← List.map_cons, ← List.map_append, ← hpath]

theorem stem_asciiLower (file : List Char) : stem (asciiLower file) = asciiLower (stem file) := by
  have hdot : ∀ s : List Char, '.' ∈ asciiLower s ↔ '.' ∈ s := by
    intro s
    have hform : ∀ c : Char, c.toLower = '.' ↔ c = '.' := fun c => toLower_eq_mark (by decide)
    unfold asciiLower
    rw [List.mem_map]
    simp only [hform, exists_eq_right]
  apply isStem_iff.mp
  rcases isStem_iff.mpr (rfl : stem file = _) with ⟨hfile, hnot⟩ | ⟨ending, hfile, hending⟩
  · exact .inl ⟨by rw [← hfile], mt (hdot file).mp hnot⟩
  · refine .inr ⟨asciiLower ending, (congrArg asciiLower hfile).trans ?_, mt (hdot ending).mp hending⟩
    unfold asciiLower
    rw [List.map_append, List.map_cons]
    rfl

def IsStemOf (path stem : String) : Prop := ∃ file, IsFile path.toList file ∧ IsStem file stem.toList

theorem isStemOf_iff {path s : String} : IsStemOf path s ↔ String.ofList (stem (fileName path.toList)) = s := by
  unfold IsStemOf
  simp only [isFile_iff, isStem_iff, exists_eq_left']
  rw [← String.toList_inj, String.toList_ofList]

theorem FilledBy.friendly?_eq_some {d : DisplayNames} {given : List (String × String)} (h : d.FilledBy given)
    {path friendly : String} : d.friendly? path = some friendly ↔ ∃ stem e, IsStemOf path stem ∧
      IsLast (fun e => SameName e.1 stem) given e ∧ e.2 = friendly := by
  unfold friendly?
  rw [h.lookup_eq_some]
  simp only [isStemOf_iff, exists_and_left, exists_eq_left']

theorem friendly?_append (d : DisplayNames) (dir path : String) {slash : Char} (hslash : IsSlash slash) :
    d.friendly? (dir ++ slash.toString ++ path) = d.friendly? path := by
  have hlist : (dir ++ slash.toString ++ path).toList = dir.toList ++ slash :: path.toList := by simp
  unfold friendly?
  rw [hlist, fileName_append _ _ hslash]

theorem friendly?_of_samePath (d : DisplayNames) {path other : String} (h : SamePath path other) :
    d.friendly? path = d.friendly? other := by
  have hkey : ∀ path : String, key (String.ofList (stem (fileName path.toList))) =
      String.ofList (stem (fileName (path.toList.map plainChar))) := by
    intro path
    unfold key
    rw [fileName_map_plainChar, stem_asciiLower, String.toList_ofList]
  unfold friendly? lookup
  rw [hkey, hkey, h.map_plainChar]

/-! ## All look-ups -/

/-- Names are found as they were inserted last, whatever the case of ASCII letters, and each is counted once. A path is
looked up by the stem of its file, so that neither its directories count, nor the kind of its slashes, nor the case of
its letters. -/
theorem answers_of_insertions {d : DisplayNames} {given : List (String × String)} (h : d.FilledBy given) :
    (∀ name friendly, d.lookup name = some friendly ↔
      ∃ e, IsLast (fun e => SameName e.1 name) given e ∧ e.2 = friendly) ∧
    (∀ name, d.lookup name = none ↔ ∀ e ∈ given, ¬SameName e.1 name) ∧
    (∃ distinct : List String, (∀ name ∈ distinct, ∃ e ∈ given, e.1 = name) ∧
      distinct.Pairwise (fun name other => ¬SameName name other) ∧
      (∀ e ∈ given, ∃ name ∈ distinct, SameName name e.1) ∧ d.size = distinct.length) ∧
    (∀ path, ∃ stem, (∀ other, IsStemOf path other ↔ other = stem) ∧ d.friendly? path = d.lookup stem) ∧
    (∀ dir slash path, IsSlash slash → d.friendly? (dir ++ slash.toString ++ path) = d.friendly? path) ∧
    (∀ path other, SamePath path other → d.friendly? path = d.friendly? other) ∧
    ∀ text : String, ∃! given, LinesInsert (lines text.toList) given := by
  refine ⟨fun _ _ => h.lookup_eq_some, fun _ => h.lookup_eq_none, h.exists_size, ?_,
    fun dir _ path hslash => d.friendly?_append dir path hslash, fun _ _ hsame => d.friendly?_of_samePath hsame, ?_⟩
  · intro path
    exact ⟨_, fun other => isStemOf_iff.trans eq_comm, rfl⟩
  · intro text
    exact ⟨_, linesInsert_iff.mpr rfl, fun given hgiven => (linesInsert_iff.mp hgiven).symm⟩

def remade : DisplayNames := (ofText "map;Map\r\n \n Spell ").insert "MAP" "Map2"

theorem filledBy_remade : remade.FilledBy ([("map", "Map"), ("Spell", "Spell")] ++ [("MAP", "Map2")]) :=
  .insert (.text (linesInsert_iff.mpr (by decide +kernel))) "MAP" "Map2"

theorem answers_of_insertions_remade : remade.FilledBy ([("map", "Map"), ("Spell", "Spell")] ++ [("MAP", "Map2")]) ∧
    remade.lookup "mAp" = some "Map2" ∧ SamePath "a/Map.v.db2" "A\\mAP.V.db2" ∧
    remade.friendly? "a/Map.v.db2" = remade.friendly? "A\\mAP.V.db2" ∧ IsSlash '\\' ∧
    remade.friendly? "x/a\\Map.db2" = remade.friendly? "Map.db2" := by
  have hsame : SamePath "a/Map.v.db2" "A\\mAP.V.db2" := by decide
  obtain ⟨hlookup, -, -, -, hdir, hpath, -⟩ := answers_of_insertions filledBy_remade
  refine ⟨filledBy_remade, (hlookup _ _).mpr ⟨("MAP", "Map2"), ?_, rfl⟩, hsame, hpath _ _ hsame, .inr rfl,
    hdir "x/a" '\\' "Map.db2" (.inr rfl)⟩
  exact ⟨[("map", "Map"), ("Spell", "Spell")], [], rfl, by decide +kernel, by simp⟩

end TableLayout.DisplayNames
