import TableLayout.MemberName
import TableLayout.Proofs.Text.Cutting

/-!
# How names are spelled

The spelling of a name as a member or in a statement holds a newline only if the name does. A member is spelled by the
words of its name.
-/

namespace TableLayout

open Text

theorem newline_not_mem_camelCase (s : List Char) (h : '\n' ∉ s) : '\n' ∉ camelCase s := by
  fun_induction camelCase s with
  | case1 => exact h
  | case2 => exact List.not_mem_nil
  | case3 rest ih => exact ih fun hmem => h (List.mem_cons_of_mem _ hmem)
  | case4 c rest _ ih =>
    simp only [List.mem_cons, not_or] at h
    have hupper : '\n' ∉ upper c := newline_not_mem_upper (Ne.symm h.2.1)
    simp [hupper, ih h.2.2]
  | case5 c rest _ _ _ ih =>
    simp only [List.mem_cons, not_or] at h
    simp [h.1, ih h.2]

theorem newline_not_mem_memberName (type : ColumnType) {name : String} (h : '\n' ∉ name.toList) :
    '\n' ∉ (memberName type name).toList := by
  have hsuffix : '\n' ∉ unsuffixed type name.toList := by
    unfold unsuffixed
    split
    · cases hd : dropEnd? "_lang".toList name.toList with
      | none => exact h
      | some front =>
        unfold dropEnd? at hd
        split at hd
        · cases hd
          exact fun hmem => h (List.mem_of_mem_take hmem)
        · cases hd
    · exact h
  unfold memberName
  rw [String.toList_ofList]
  exact newline_not_mem_camelCase _ hsuffix

theorem newline_not_mem_snakeFrom (afterLower : Bool) (s : List Char) (h : '\n' ∉ s) :
    '\n' ∉ snakeFrom afterLower s := by
  induction s generalizing afterLower with
  | nil => exact h
  | cons c s ih =>
    simp only [List.mem_cons, not_or] at h
    have hupper : '\n' ∉ upper c := newline_not_mem_upper (Ne.symm h.1)
    simp [snakeFrom, hupper, ih (isLower c) h.2]

/-! ## Words -/

/-- Words in a row, those after the first with a capital. -/
def runTogether : List (List Char) → List Char
  | [] => []
  | first :: rest => first ++ rest.flatMap capitalized

theorem capitalized_eq_nil {word : List Char} : capitalized word = [] ↔ word = [] := by
  cases word with
  | nil => simp [capitalized]
  | cons c rest => simp [capitalized, upper_ne_nil]

theorem runTogether_eq_nil {words : List (List Char)} : runTogether words = [] ↔ ∀ word ∈ words, word = [] := by
  cases words with
  | nil => simp [runTogether]
  | cons first rest => simp [runTogether, capitalized_eq_nil]

theorem camelCase_eq_runTogether (s : List Char) : camelCase s = runTogether (s.splitOn '_') := by
  fun_induction camelCase s with
  | case1 => rfl
  | case2 => rfl
  | case3 rest ih =>
    rw [ih, splitOn_cons_self, splitOn_cons_self]
    rfl
  | case4 c rest hc ih =>
    obtain ⟨word, words, hwords⟩ := List.exists_cons_of_ne_nil (List.splitOn_ne_nil '_' rest)
    rw [ih, splitOn_cons_self, splitOn_cons_of_ne hc hwords, hwords]
    simp [runTogether, capitalized]
  | case5 c rest hlast hpair hother ih =>
    have hc : c ≠ '_' := by
      intro e
      cases rest with
      | nil => exact hlast e rfl
      | cons next rest => exact hother next rest e rfl
    obtain ⟨word, words, hwords⟩ := List.exists_cons_of_ne_nil (List.splitOn_ne_nil '_' rest)
    rw [ih, splitOn_cons_of_ne hc hwords, hwords]
    rfl

theorem runTogether_of_one_word {s : List Char} (h : '_' ∉ s) : runTogether (s.splitOn '_') = s := by
  rw [List.splitOn_eq_singleton h]
  simp [runTogether]

theorem underscore_not_mem_capitalized {word : List Char} (h : '_' ∉ word) : '_' ∉ capitalized word := by
  cases word with
  | nil => exact h
  | cons c rest =>
    simp only [List.mem_cons, not_or] at h
    simp [capitalized, underscore_not_mem_upper (Ne.symm h.1), h.2]

theorem underscore_not_mem_runTogether {words : List (List Char)} (h : ∀ word ∈ words, '_' ∉ word) :
    '_' ∉ runTogether words := by
  cases words with
  | nil => exact List.not_mem_nil
  | cons first rest =>
    rw [runTogether, List.mem_append, List.mem_flatMap, not_or]
    refine ⟨h first List.mem_cons_self, ?_⟩
    intro hmem
    obtain ⟨word, hword, hmem⟩ := hmem
    exact underscore_not_mem_capitalized (h word (List.mem_cons_of_mem _ hword)) hmem

/-! ## One underscore at a time -/

theorem splitOn_capitalized {s word : List Char} {words : List (List Char)} (h : s.splitOn '_' = word :: words) :
    (capitalized s).splitOn '_' = capitalized word :: words := by
  cases s with
  | nil =>
    rw [List.splitOn_nil] at h
    cases h
    exact List.splitOn_nil ..
  | cons c rest =>
    by_cases hc : c = '_'
    · subst hc
      have hsame : capitalized ('_' :: rest) = '_' :: rest := rfl
      rw [splitOn_cons_self] at h
      cases h
      rw [hsame, splitOn_cons_self]
      rfl
    · obtain ⟨first, others, hrest⟩ := List.exists_cons_of_ne_nil (List.splitOn_ne_nil '_' rest)
      rw [splitOn_cons_of_ne hc hrest] at h
      cases h
      exact splitOn_append_of_not_mem (underscore_not_mem_upper hc) hrest

section
variable {s : List Char}

theorem raiseFirst?_eq_none_iff : raiseFirst? s = none ↔ '_' ∉ s := by
  unfold raiseFirst?
  rw [Option.map_eq_none_iff, cutAt_eq_none_iff]

theorem splitOn_raiseFirst? {s' : List Char} (h : raiseFirst? s = some s') : ∃ first second rest,
    s.splitOn '_' = first :: second :: rest ∧ s'.splitOn '_' = (first ++ capitalized second) :: rest := by
  unfold raiseFirst? at h
  obtain ⟨⟨before, after⟩, hcut, rfl⟩ := Option.map_eq_some_iff.mp h
  obtain ⟨rfl, hbefore⟩ := cutAt_eq_some.mp hcut
  obtain ⟨second, rest, hafter⟩ := List.exists_cons_of_ne_nil (List.splitOn_ne_nil '_' after)
  refine ⟨before, second, rest, ?_, splitOn_append_of_not_mem hbefore (splitOn_capitalized hafter)⟩
  rw [splitOn_append_of_not_mem hbefore (splitOn_cons_self '_' after), List.append_nil, hafter]

theorem runTogether_raiseFirst? {s' : List Char} (h : raiseFirst? s = some s') :
    runTogether (s'.splitOn '_') = runTogether (s.splitOn '_') := by
  obtain ⟨first, second, rest, hs, hs'⟩ := splitOn_raiseFirst? h
  simp [hs, hs', runTogether]

end

theorem raised_eq_runTogether (s : List Char) : raised s = runTogether (s.splitOn '_') := by
  fun_induction raised s with
  | case1 s hs => exact (runTogether_of_one_word (raiseFirst?_eq_none_iff.mp hs)).symm
  | case2 s s' hs ih => rw [ih, runTogether_raiseFirst? hs]

/-! ## The spelling of a member -/

theorem unsuffixed_cases (type : ColumnType) (name : List Char) :
    (type = .localized ∧ name = unsuffixed type name ++ "_lang".toList) ∨
      (¬(type = .localized ∧ "_lang".toList <:+ name) ∧ unsuffixed type name = name) := by
  cases type with
  | localized =>
    cases hd : dropEnd? "_lang".toList name with
    | none =>
      refine .inr ⟨?_, by simp only [unsuffixed, hd, Option.getD_none]⟩
      intro h
      obtain ⟨-, front, rfl⟩ := h
      rw [dropEnd?_append] at hd
      cases hd
    | some front =>
      refine .inl ⟨rfl, ?_⟩
      simp only [unsuffixed, hd, Option.getD_some]
      exact dropEnd?_eq_some.mp hd
  | _ => exact .inr ⟨by simp, rfl⟩

theorem unsuffixed_of_one_word (type : ColumnType) {name : List Char} (h : '_' ∉ name) :
    unsuffixed type name = name := by
  rcases unsuffixed_cases type name with ⟨-, hname⟩ | ⟨-, hname⟩
  · rw [hname] at h
    exact absurd (by simp) h
  · exact hname

/-- A member is spelled by the words of its name, which a localized column has no suffix in: the first as it is and the
others with a capital. Raising one underscore after the other spells it too. No underscore is left, so that the member
is a name that is its own member, whatever the type. -/
theorem memberName_spelling (type : ColumnType) (name : String) : ∃ stem,
    ((type = .localized ∧ name.toList = stem ++ "_lang".toList) ∨
      (¬(type = .localized ∧ "_lang".toList <:+ name.toList) ∧ stem = name.toList)) ∧
    (memberName type name).toList = runTogether (stem.splitOn '_') ∧
    raised stem = (memberName type name).toList ∧
    '_' ∉ (memberName type name).toList ∧
    ∀ type', memberName type' (memberName type name) = memberName type name := by
  have hwords : (memberName type name).toList = runTogether ((unsuffixed type name.toList).splitOn '_') := by
    rw [memberName, String.toList_ofList, camelCase_eq_runTogether]
  have hunderscore : '_' ∉ (memberName type name).toList := by
    rw [hwords]
    exact underscore_not_mem_runTogether fun word => not_mem_of_mem_splitOn
  refine ⟨unsuffixed type name.toList, unsuffixed_cases type name.toList, hwords, ?_, hunderscore, fun type' => ?_⟩
  · rw [raised_eq_runTogether, hwords]
  · generalize memberName type name = member at hunderscore
    rw [memberName, unsuffixed_of_one_word type' hunderscore, camelCase_eq_runTogether,
      runTogether_of_one_word hunderscore, String.ofList_toList]

end TableLayout
