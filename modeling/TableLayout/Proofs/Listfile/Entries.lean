import Mathlib.Order.Bounds.Basic
import Std.Data.TreeMap.Lemmas
import TableLayout.Listfile
import TableLayout.Proofs.Overwriting
import TableLayout.Proofs.Text.Cutting
import TableLayout.Proofs.Text.Numeral

/-!
# Entries of a listfile

A number is looked up in the last line with an entry for it, and a path among all numbers, the least of which is its
answer. Lines without an entry can be left out, and lines with different numbers change places, without any look-up
noticing.
-/

namespace TableLayout.Listfile

open Text

/-- What a line says: a number and a path with a semicolon between them, and white space around both. -/
def IsEntry (line : List Char) (id : UInt32) (path : String) : Prop :=
  ∃ number rest, trim line = number ++ ';' :: rest ∧ ';' ∉ number ∧ IsNumeral (trim number) id ∧
    path = String.ofList (trim rest)

theorem readLine_eq_some_iff {line : List Char} {id : UInt32} {path : String} :
    readLine (trim line) = some (id, path) ↔ IsEntry line id path := by
  unfold readLine IsEntry
  constructor
  · intro h
    obtain ⟨⟨number, rest⟩, hcut, h⟩ := Option.bind_eq_some_iff.mp h
    obtain ⟨id', hword, h⟩ := Option.bind_eq_some_iff.mp h
    cases h
    obtain ⟨htrim, hnumber⟩ := cutAt_eq_some.mp hcut
    exact ⟨number, rest, htrim, hnumber, readWord_eq_some_iff.mp hword, rfl⟩
  · rintro ⟨number, rest, htrim, hnumber, hword, rfl⟩
    rw [htrim, cutAt_append hnumber]
    show (readWord (trim number) >>= fun id => some (id, String.ofList (trim rest))) = _
    rw [readWord_eq_some_iff.mpr hword]
    rfl

def IsFor (id : UInt32) (line : List Char) : Prop := ∃ path, IsEntry line id path

def number? (line : List Char) : Option UInt32 := (readLine (trim line)).map (·.1)

theorem isFor_iff {id : UInt32} {line : List Char} : IsFor id line ↔ number? line = some id := by
  simp [IsFor, number?, ← readLine_eq_some_iff]

instance (id : UInt32) (line : List Char) : Decidable (IsFor id line) := decidable_of_iff _ isFor_iff.symm

theorem exists_isFor_iff {line : List Char} : (∃ id, IsFor id line) ↔ (number? line).isSome = true := by
  simp [isFor_iff, Option.isSome_iff_exists]

instance (line : List Char) : Decidable (∃ id, IsFor id line) := decidable_of_iff _ exists_isFor_iff.symm

/-! ## Reading -/

/-- A line overrules the earlier ones with its number. -/
theorem path?_overwrites (id : UInt32) : Overwrites (path? · id) addLine (IsEntry · id ·) where
  told l line path h := by
    unfold addLine path?
    rw [readLine_eq_some_iff.mpr h]
    exact Std.TreeMap.getElem?_insert_self
  silent l line h := by
    unfold addLine path?
    cases hline : readLine (trim line) with
    | none => rfl
    | some entry =>
      obtain ⟨id', path⟩ := entry
      have hne : id' ≠ id := by
        rintro rfl
        exact h path (readLine_eq_some_iff.mp hline)
      rw [Std.TreeMap.getElem?_insert, if_neg (by simpa using hne)]

section
variable (text : String) {id : UInt32}

theorem path?_ofText {path : String} : (ofText text).path? id = some path ↔
    ∃ line, IsLast (IsFor id) (lines text.toList) line ∧ IsEntry line id path :=
  (path?_overwrites id).foldl_eq_some_iff Std.TreeMap.getElem?_emptyc

theorem path?_ofText_eq_none : (ofText text).path? id = none ↔ ∀ line ∈ lines text.toList, ¬IsFor id line := by
  unfold ofText
  rw [(path?_overwrites id).foldl_eq_none_iff Std.TreeMap.getElem?_emptyc]
  simp [IsFor]

end

/-! ## Look-ups -/

theorem mem_entries {l : Listfile} {id : UInt32} {path : String} :
    (id, path) ∈ l.paths.toList ↔ l.path? id = some path := Std.TreeMap.mem_toList_iff_getElem?_eq_some

theorem pairwise_entries (l : Listfile) : l.paths.toList.Pairwise fun e e' => e.1 < e'.1 :=
  Std.TreeMap.ordered_keys_toList.imp Std.compare_eq_lt.mp

theorem exists_size (l : Listfile) :
    ∃ ids : List UInt32, ids.Nodup ∧ (∀ id, id ∈ ids ↔ l.path? id ≠ none) ∧ l.size = ids.length := by
  refine ⟨l.paths.keys, Std.TreeMap.nodup_keys, ?_, Std.TreeMap.length_keys.symm⟩
  intro id
  rw [Std.TreeMap.mem_keys, Std.TreeMap.mem_iff_isSome_getElem?, path?, Option.isSome_iff_ne_none]

theorem idOf_cases (l : Listfile) (path : String) :
    (l.path? (l.idOf path) = some path ∧ ∀ id, l.path? id = some path → l.idOf path ≤ id) ∨
      (∀ id, l.path? id ≠ some path) ∧ l.idOf path = 0 := by
  unfold idOf
  cases hfind : l.paths.toList.find? (·.2 = path) with
  | none =>
    refine .inr ⟨?_, rfl⟩
    intro id hid
    simpa using List.find?_eq_none.mp hfind _ (mem_entries.mpr hid)
  | some entry =>
    obtain ⟨first, path'⟩ := entry
    obtain ⟨hpath, before, after, hl, hbefore⟩ := List.find?_eq_some_iff_append.mp hfind
    obtain rfl : path' = path := by simpa using hpath
    have hsorted := l.pairwise_entries
    rw [hl] at hsorted
    refine .inl ⟨mem_entries.mp (by simp [hl]), ?_⟩
    intro id hid
    have hmem := mem_entries.mpr hid
    rw [hl] at hmem
    rcases List.mem_append.mp hmem with hfront | hrest
    · simpa using hbefore _ hfront
    · rcases List.mem_cons.mp hrest with heq | hafter
      · exact UInt32.le_of_eq (Prod.mk.inj heq).1.symm
      · exact UInt32.le_of_lt (List.rel_of_pairwise_cons (List.pairwise_append.mp hsorted).2.1 hafter)

/-! ## Listfiles with the same answers -/

structure SameAnswers (l l' : Listfile) : Prop where
  path : ∀ id, l.path? id = l'.path? id
  size : l.size = l'.size
  idOf : ∀ path, l.idOf path = l'.idOf path

theorem toList_eq_of_path? {l l' : Listfile} (h : ∀ id, l.path? id = l'.path? id) :
    l.paths.toList = l'.paths.toList := (Std.TreeMap.Equiv.of_forall_constGet?_eq h).toList_eq

theorem sameAnswers_of_path? {l l' : Listfile} (h : ∀ id, l.path? id = l'.path? id) : SameAnswers l l' where
  path := h
  size := by
    unfold size
    rw [← Std.TreeMap.length_toList, toList_eq_of_path? h, Std.TreeMap.length_toList]
  idOf path := by
    unfold idOf
    rw [toList_eq_of_path? h]

def linesFor (id : UInt32) (text : String) : List (List Char) := (lines text.toList).filter (IsFor id)

theorem path?_eq_of_linesFor {text text' : String} {id : UInt32} (h : linesFor id text = linesFor id text') :
    (ofText text).path? id = (ofText text').path? id := by
  apply Option.ext
  intro path
  unfold linesFor at h
  rw [path?_ofText, path?_ofText]
  simp only [isLast_iff_getLast?, h]

def entriesOnly (text : String) : String :=
  unlines (((lines text.toList).filter (∃ id, IsFor id ·)).map String.ofList)

theorem lines_entriesOnly (text : String) :
    lines (entriesOnly text).toList = (lines text.toList).filter (∃ id, IsFor id ·) := by
  unfold entriesOnly
  rw [toList_unlines, List.flatMap_map]
  simp only [String.toList_ofList]
  exact lines_flatMap fun line hline => newline_not_mem_lines (List.mem_filter.mp hline).1

theorem linesFor_entriesOnly (id : UInt32) (text : String) : linesFor id (entriesOnly text) = linesFor id text := by
  unfold linesFor
  rw [lines_entriesOnly, List.filter_filter]
  apply List.filter_congr
  intro line _
  have hsome : IsFor id line → ∃ id, IsFor id line := fun h => ⟨id, h⟩
  simpa using hsome

/-- All answers come from the last line with an entry for each number. A path is answered with the least number that has
it. Neither the lines that are no entries count, nor the order of lines with entries for different numbers. -/
theorem answers_of_entries (text : String) :
    (∀ id path, (ofText text).path? id = some path ↔
      ∃ line, IsLast (IsFor id) (lines text.toList) line ∧ IsEntry line id path) ∧
    (∀ id, (ofText text).path? id = none ↔ ∀ line ∈ lines text.toList, ¬IsFor id line) ∧
    (∃ ids : List UInt32, ids.Nodup ∧ (∀ id, id ∈ ids ↔ ∃ line ∈ lines text.toList, IsFor id line) ∧
      (ofText text).size = ids.length) ∧
    (∀ path, (∃ id, IsLeast {id | (ofText text).path? id = some path} id ∧ (ofText text).idOf path = id) ∨
      (∀ id, (ofText text).path? id ≠ some path) ∧ (ofText text).idOf path = 0) ∧
    (∀ path, (ofText text).idOf path ≠ 0 → (ofText text).path? ((ofText text).idOf path) = some path) ∧
    (∀ id path, (ofText text).path? id = some path → (ofText text).idOf path ≤ id) ∧
    SameAnswers (ofText (entriesOnly text)) (ofText text) ∧
    ∀ text', (∀ id, linesFor id text' = linesFor id text) → SameAnswers (ofText text') (ofText text) := by
  refine ⟨fun id path => path?_ofText text, fun id => path?_ofText_eq_none text, ?_, ?_, ?_, ?_, ?_, ?_⟩
  · obtain ⟨ids, hnodup, hids, hsize⟩ := (ofText text).exists_size
    refine ⟨ids, hnodup, ?_, hsize⟩
    intro id
    rw [hids, ne_eq, path?_ofText_eq_none]
    simp
  · intro path
    rcases (ofText text).idOf_cases path with ⟨hfound, hleast⟩ | hnone
    · exact .inl ⟨_, ⟨hfound, fun id hid => hleast id hid⟩, rfl⟩
    · exact .inr hnone
  · intro path hne
    rcases (ofText text).idOf_cases path with ⟨hfound, -⟩ | ⟨-, hzero⟩
    · exact hfound
    · exact absurd hzero hne
  · intro id path hid
    rcases (ofText text).idOf_cases path with ⟨-, hleast⟩ | ⟨hnone, -⟩
    · exact hleast id hid
    · exact absurd hid (hnone id)
  · exact sameAnswers_of_path? fun id => path?_eq_of_linesFor (linesFor_entriesOnly id text)
  · intro text' h
    exact sameAnswers_of_path? fun id => path?_eq_of_linesFor (h id)

def rollText : String := "0;a.blp\n7; old\r\n\nno\n7x;b\n+7 ;\tmap;v2\n"

def shuffledText : String := "7; old\r\n+7 ;\tmap;v2\n  \n0;a.blp"

theorem linesFor_eq_nil {text : String} {id : UInt32} (h : id ∉ (lines text.toList).filterMap number?) :
    linesFor id text = [] := by
  apply List.filter_eq_nil_iff.mpr
  intro line hline hfor
  exact h (List.mem_filterMap.mpr ⟨line, hline, isFor_iff.mp (of_decide_eq_true hfor)⟩)

theorem linesFor_shuffledText (id : UInt32) : linesFor id shuffledText = linesFor id rollText := by
  by_cases hzero : id = 0
  · subst hzero
    decide +kernel
  · by_cases hseven : id = 7
    · subst hseven
      decide +kernel
    · have hroll : (lines rollText.toList).filterMap number? = [0, 7, 7] := by decide +kernel
      have hshuffled : (lines shuffledText.toList).filterMap number? = [7, 7, 0] := by decide +kernel
      have hroll' : linesFor id rollText = [] := linesFor_eq_nil (by simp [hroll, hzero, hseven, -List.mem_filterMap])
      have hshuffled' : linesFor id shuffledText = [] :=
        linesFor_eq_nil (by simp [hshuffled, hzero, hseven, -List.mem_filterMap])
      rw [hroll', hshuffled']

theorem answers_of_entries_roll : (∀ id, linesFor id shuffledText = linesFor id rollText) ∧
    SameAnswers (ofText shuffledText) (ofText rollText) ∧
    (ofText rollText).path? 7 = some "map;v2" ∧ (ofText rollText).size = 2 ∧
    (ofText rollText).idOf "old" = 0 ∧ (ofText rollText).path? 0 = some "a.blp" := by
  obtain ⟨-, -, -, -, -, -, -, hsame⟩ := answers_of_entries rollText
  exact ⟨linesFor_shuffledText, hsame _ linesFor_shuffledText, by decide +kernel, by decide +kernel, by decide +kernel,
    by decide +kernel⟩

end TableLayout.Listfile
