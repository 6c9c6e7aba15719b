import Mathlib.Data.List.SplitBy
import TableLayout.MemberName
import TableLayout.Proofs.Text.Cutting
import TableLayout.Proofs.Text.LetterCase

/-!
# The name of a statement

A statement name is spelled in one pass that remembers whether the last character is a lower-case one. Here the
underscores are put in first, between the words of the name, and the capitals come after. In ASCII the lengths of the
words tell which underscores to drop again.
-/

namespace TableLayout

open Text

/-! ## Words by case -/

def isBoundary (c d : Char) : Bool := isLower c && isUpper d

/-- The words of a name, which end exactly at its boundaries. -/
def caseWords (name : List Char) : List (List Char) := name.splitBy fun c d => !isBoundary c d

def separated (name : List Char) : List Char := ['_'].intercalate (caseWords name)

section
variable {c d : Char} {rest : List Char}

theorem caseWords_of_boundary (h : isBoundary c d = true) :
    caseWords (c :: d :: rest) = [c] :: caseWords (d :: rest) := by
  have hends : ∀ x ∈ [c].getLast?, (!isBoundary x d) = false := by simp [h]
  have hcut : caseWords ([c] ++ d :: rest) = caseWords [c] ++ caseWords (d :: rest) :=
    List.splitBy_append_cons rest hends
  exact hcut

theorem caseWords_of_not_boundary (h : isBoundary c d = false) {word : List Char} {words : List (List Char)}
    (hwords : caseWords (d :: rest) = word :: words) : caseWords (c :: d :: rest) = (c :: word) :: words := by
  unfold caseWords at hwords ⊢
  rw [List.splitBy_eq_iff] at hwords ⊢
  obtain ⟨hflat, hne, hinside, hcuts⟩ := hwords
  cases word with
  | nil => simp at hne
  | cons first word =>
    obtain ⟨rfl, -⟩ := List.cons_eq_cons.mp hflat
    rw [List.forall_mem_cons] at hinside
    rw [List.isChain_cons] at hcuts
    refine ⟨by rw [hflat]; rfl, by simpa using hne, ?_, ?_⟩
    · rw [List.forall_mem_cons]
      exact ⟨List.isChain_cons_cons.mpr ⟨by simp [h], hinside.1⟩, hinside.2⟩
    · rw [List.isChain_cons]
      refine ⟨?_, hcuts.2⟩
      intro next hnext
      obtain ⟨hlast, hhead, hcut⟩ := hcuts.1 next hnext
      refine ⟨List.cons_ne_nil _ _, hhead, ?_⟩
      rwa [List.getLast_cons hlast]

end

theorem separated_cons_cons (c d : Char) (rest : List Char) :
    separated (c :: d :: rest) = c :: (if isBoundary c d then ['_'] else []) ++ separated (d :: rest) := by
  obtain ⟨word, words, hwords⟩ : ∃ word words, caseWords (d :: rest) = word :: words :=
    List.exists_cons_of_ne_nil (List.splitBy_ne_nil.mpr (List.cons_ne_nil d rest))
  unfold separated
  by_cases h : isBoundary c d = true
  · rw [caseWords_of_boundary h, hwords, List.intercalate_cons_cons]
    simp [h]
  · rw [Bool.not_eq_true] at h
    rw [caseWords_of_not_boundary h hwords, hwords]
    cases words with
    | nil => simp [h]
    | cons next words => simp [List.intercalate_cons_cons, h]

theorem separated_of_no_lower {s : List Char} (h : ∀ c ∈ s, isLower c = false) : separated s = s := by
  induction s with
  | nil => rfl
  | cons c s ih =>
    rw [List.forall_mem_cons] at h
    cases s with
    | nil => rfl
    | cons d rest =>
      rw [separated_cons_cons, ih h.2]
      simp [isBoundary, h.1]

theorem mem_separated {c : Char} {s : List Char} (h : c ∈ separated s) : c = '_' ∨ c ∈ s := by
  rcases mem_of_mem_intercalate h with hmark | ⟨word, hword, hc⟩
  · exact .inl (List.mem_singleton.mp hmark)
  · right
    rw [← List.flatten_splitBy (fun c d => !isBoundary c d) s]
    exact List.mem_flatten_of_mem hword hc

/-! ## One pass -/

theorem upper_underscore : upper '_' = ['_'] := by decide

/-- A pass that starts behind a lower-case character puts an underscore before an upper-case one, and goes on as if the
underscores were there already. -/
theorem snakeFrom_eq (afterLower : Bool) (s : List Char) :
    snakeFrom afterLower s =
      (if afterLower && s.head?.any isUpper then ['_'] else []) ++ (separated s).flatMap upper := by
  -- for any case of the character before `s`: the pass over the rest starts with the case of its first
  induction s generalizing afterLower with
  | nil => simp [snakeFrom, separated, caseWords]
  | cons c s ih =>
    rw [snakeFrom, ih (isLower c)]
    cases s with
    | nil => simp [separated, caseWords, List.splitBy, List.splitBy.loop]
    | cons d rest =>
      rw [separated_cons_cons, isBoundary]
      by_cases h : (isLower c && isUpper d) = true
      · simp [h, upper_underscore]
      · simp [h]

theorem toList_screamingSnake (name : String) :
    (screamingSnake name).toList = (separated name.toList).flatMap upper := by
  rw [screamingSnake, String.toList_ofList, snakeFrom_eq]
  rfl

theorem screamingSnake_of_settled {name : String} (h : ∀ c ∈ name.toList, isLower c = false ∧ upper c = [c]) :
    screamingSnake name = name := by
  have hseparated : separated name.toList = name.toList := separated_of_no_lower fun c hc => (h c hc).1
  have hupper : name.toList.flatMap upper = name.toList.flatMap ([·]) := List.flatMap_congr fun c hc => (h c hc).2
  rw [← String.toList_inj, toList_screamingSnake, hseparated, hupper, List.flatMap_singleton']

/-! ## Without the separators -/

/-- Pieces of the given lengths, without the one character behind each. -/
def dropSeparators : List Nat → List Char → List Char
  | [], _ => []
  | n :: lengths, s => s.take n ++ dropSeparators lengths (s.drop (n + 1))

theorem dropSeparators_intercalate (mark : Char) (words : List (List Char)) :
    dropSeparators (words.map List.length) ([mark].intercalate words) = words.flatten := by
  induction words with
  | nil => rfl
  | cons word words ih =>
    cases words with
    | nil => simp [dropSeparators]
    | cons next words =>
      have htake : (word ++ [mark] ++ [mark].intercalate (next :: words)).take word.length = word := by
        rw [List.append_assoc, List.take_left]
      have hdrop : (word ++ [mark] ++ [mark].intercalate (next :: words)).drop (word.length + 1) =
          [mark].intercalate (next :: words) := List.drop_left' (by simp)
      rw [List.intercalate_cons_cons, List.map_cons, dropSeparators, htake, hdrop, ih]
      rfl

theorem dropSeparators_map (f : Char → Char) (lengths : List Nat) (s : List Char) :
    dropSeparators lengths (s.map f) = (dropSeparators lengths s).map f := by
  induction lengths generalizing s with
  | nil => rfl
  | cons n lengths ih =>
    rw [dropSeparators, ← List.map_drop, ← List.map_take, ih, ← List.map_append]
    rfl

theorem dropSeparators_separated (s : List Char) :
    dropSeparators ((caseWords s).map List.length) (separated s) = s := by
  rw [separated, dropSeparators_intercalate]
  exact List.flatten_splitBy _ s

/-! ## Names in ASCII -/

section
variable {name : String} (hascii : ∀ c ∈ name.toList, c.toNat < 0x80)
include hascii

theorem ascii_separated : ∀ c ∈ separated name.toList, c.toNat < 0x80 := by
  intro c hc
  rcases mem_separated hc with rfl | hc
  · decide
  · exact hascii c hc

theorem toList_screamingSnake_of_ascii : (screamingSnake name).toList = (separated name.toList).map Char.toUpper := by
  have hupper : (separated name.toList).flatMap upper = (separated name.toList).flatMap fun c => [c.toUpper] :=
    List.flatMap_congr fun c hc => upper_of_ascii (ascii_separated hascii c hc)
  rw [toList_screamingSnake, hupper, List.map_eq_flatMap]

theorem settled_screamingSnake : ∀ c ∈ (screamingSnake name).toList, isLower c = false ∧ upper c = [c] := by
  intro c hc
  rw [toList_screamingSnake_of_ascii hascii] at hc
  obtain ⟨d, hd, rfl⟩ := List.mem_map.mp hc
  exact settled_toUpper (ascii_separated hascii d hd)

end

/-- A statement is named by its table with an underscore at each boundary, all in capitals. In ASCII such a name is
spelled as it is, and without the underscores that were put in it is the table in capitals. -/
theorem screamingSnake_spelling (name : String) :
    (screamingSnake name).toList = (separated name.toList).flatMap upper ∧
    ((∀ c ∈ name.toList, c.toNat < 0x80) →
      screamingSnake (screamingSnake name) = screamingSnake name ∧
      dropSeparators ((caseWords name.toList).map List.length) (screamingSnake name).toList =
        name.toList.map Char.toUpper) := by
  refine ⟨toList_screamingSnake name, fun hascii => ⟨?_, ?_⟩⟩
  · apply screamingSnake_of_settled
    exact settled_screamingSnake hascii
  · rw [toList_screamingSnake_of_ascii hascii, dropSeparators_map, dropSeparators_separated]

/-- The underscore of the table stays, where the two between its words go. -/
theorem screamingSnake_spelling_area :
    (∀ c ∈ "areaPOI_sortUi".toList, c.toNat < 0x80) ∧
    separated "areaPOI_sortUi".toList = "area_POI_sort_Ui".toList ∧
    screamingSnake "areaPOI_sortUi" = "AREA_POI_SORT_UI" ∧
    screamingSnake "AREA_POI_SORT_UI" = "AREA_POI_SORT_UI" ∧
    dropSeparators [4, 8, 2] "AREA_POI_SORT_UI".toList = "AREAPOI_SORTUI".toList := by
  have hascii : ∀ c ∈ "areaPOI_sortUi".toList, c.toNat < 0x80 := by simp
  have hwords : caseWords "areaPOI_sortUi".toList = ["area".toList, "POI_sort".toList, "Ui".toList] := by decide
  have hseparated : separated "areaPOI_sortUi".toList = "area_POI_sort_Ui".toList := by
    rw [separated, hwords]
    decide
  have hupper : "areaPOI_sortUi".toList.map Char.toUpper = "AREAPOI_SORTUI".toList := by decide
  obtain ⟨hspelling, hrest⟩ := screamingSnake_spelling "areaPOI_sortUi"
  obtain ⟨hagain, hdropped⟩ := hrest hascii
  have hname : screamingSnake "areaPOI_sortUi" = "AREA_POI_SORT_UI" := by
    rw [← String.toList_inj, hspelling, hseparated]
    decide
  rw [hname] at hagain hdropped
  rw [hwords, hupper] at hdropped
  exact ⟨hascii, hseparated, hname, hagain, hdropped⟩

-- Beyond ASCII a lower-case character can be its own capital, and the second pass finds a boundary behind it.
example : screamingSnake "\u00AAa" = "\u00AAA" ∧ screamingSnake "\u00AAA" = "\u00AA_A" := by decide +kernel

end TableLayout
