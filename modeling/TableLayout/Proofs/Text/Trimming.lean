import Mathlib.Data.List.DropRight
import TableLayout.Text.Cut

/-!
# White space at the ends

What trimming leaves of a text put together from parts. A text is trimmed when it neither starts nor ends with
white space; the empty text is.
-/

namespace TableLayout.Text

section
variable {s t : List Char} {c : Char}

theorem trimEnd_eq_nil_iff : trimEnd s = [] ↔ ∀ c ∈ s, isBlank c = true := List.rdropWhile_eq_nil_iff ..

theorem trimEnd_ne_nil_iff : trimEnd s ≠ [] ↔ ∃ c ∈ s, isBlank c = false := by
  rw [ne_eq, trimEnd_eq_nil_iff]
  simp

-- both are decided by trimming, never by a search through all characters
instance (s : List Char) : Decidable (∀ c ∈ s, isBlank c = true) := decidable_of_iff _ trimEnd_eq_nil_iff

instance (s : List Char) : Decidable (∃ c ∈ s, isBlank c = false) := decidable_of_iff _ trimEnd_ne_nil_iff

theorem trimEnd_append (s t : List Char) :
    trimEnd (s ++ t) = if trimEnd t = [] then trimEnd s else s ++ trimEnd t := by
  unfold trimEnd
  rw [List.reverse_append, List.dropWhile_append]
  by_cases h : t.reverse.dropWhile isBlank = []
  · simp [h]
  · have hr : (t.reverse.dropWhile isBlank).reverse ≠ [] := fun e => h (List.reverse_eq_nil_iff.mp e)
    have he : (t.reverse.dropWhile isBlank).isEmpty = false := by simpa using h
    simp only [he, hr, Bool.false_eq_true, ite_false, List.reverse_append, List.reverse_reverse]

theorem trimEnd_append_blank (h : ∀ c ∈ t, isBlank c = true) : trimEnd (s ++ t) = trimEnd s := by
  rw [trimEnd_append, if_pos (trimEnd_eq_nil_iff.mpr h)]

theorem trimEnd_cons (h : isBlank c = false) (s : List Char) : trimEnd (c :: s) = c :: trimEnd s := by
  have hc : trimEnd [c] = [c] := by simp [trimEnd, h]
  rw [← List.singleton_append, trimEnd_append]
  split
  · next hs => rw [hc, hs]
  · rfl

theorem trimEnd_append_cons (h : isBlank c = false) (s t : List Char) :
    trimEnd (s ++ c :: t) = s ++ c :: trimEnd t := by
  rw [trimEnd_append, trimEnd_cons h, if_neg (List.cons_ne_nil _ _)]

theorem trimEnd_eq_self_iff : trimEnd s = s ↔ ∀ c ∈ s.getLast?, isBlank c = false := by
  constructor
  · intro h c hc
    obtain ⟨front, rfl⟩ := List.getLast?_eq_some_iff.mp hc
    have := List.rdropWhile_eq_self_iff.mp h (by simp)
    simpa using this
  · intro h
    rcases List.eq_nil_or_concat s with rfl | ⟨front, c, rfl⟩
    · rfl
    · rw [List.concat_eq_append] at h ⊢
      exact trimEnd_append_cons (h c (by simp)) front []

theorem trimStart_eq_self_iff : trimStart s = s ↔ ∀ c ∈ s.head?, isBlank c = false := by
  cases s with
  | nil => simp [trimStart]
  | cons c s =>
    constructor
    · intro h d hd
      have := List.dropWhile_eq_self_iff.mp h (by simp)
      simp only [List.head?_cons, Option.mem_def, Option.some.injEq] at hd
      subst hd
      simpa using this
    · intro h
      have := h c rfl
      simp [trimStart, this]

theorem trim_eq_self_iff : trim s = s ↔ trimStart s = s ∧ trimEnd s = s := by
  constructor
  · intro h
    have len₁ : (trimStart s).length ≤ s.length := (List.dropWhile_suffix _).length_le
    have len₂ : (trimEnd (trimStart s)).length ≤ (trimStart s).length :=
      (List.rdropWhile_prefix ..).length_le
    have hs : trimStart s = s := by
      refine (List.dropWhile_suffix _).eq_of_length ?_
      have := congrArg List.length h
      unfold trim at this
      exact Nat.le_antisymm len₁ (this ▸ len₂)
    unfold trim at h
    rw [hs] at h
    exact ⟨hs, h⟩
  · rintro ⟨h₁, h₂⟩
    unfold trim
    rw [h₁, h₂]

theorem trim_eq_self_iff_ends :
    trim s = s ↔ (∀ c ∈ s.head?, isBlank c = false) ∧ ∀ c ∈ s.getLast?, isBlank c = false := by
  rw [trim_eq_self_iff, trimStart_eq_self_iff, trimEnd_eq_self_iff]

theorem trimStart_of_trim_eq (h : trim s = s) : trimStart s = s := (trim_eq_self_iff.mp h).1

theorem trimEnd_of_trim_eq (h : trim s = s) : trimEnd s = s := (trim_eq_self_iff.mp h).2

theorem trim_append_append {m : List Char} (hs : trimStart s = s) (ht : trimEnd t = t) (hs' : s ≠ [])
    (ht' : t ≠ []) : trim (s ++ m ++ t) = s ++ m ++ t := by
  rw [trimStart_eq_self_iff] at hs
  rw [trimEnd_eq_self_iff] at ht
  rw [trim_eq_self_iff_ends]
  constructor
  · intro c hc
    rw [List.append_assoc, List.head?_append_of_ne_nil _ hs'] at hc
    exact hs c hc
  · intro c hc
    rw [List.getLast?_append_of_ne_nil _ ht'] at hc
    exact ht c hc

theorem trim_append (hs : trim s = s) (ht : trim t = t) : trim (s ++ t) = s ++ t := by
  by_cases hs' : s = []
  · rw [hs', List.nil_append, ht]
  · by_cases ht' : t = []
    · rw [ht', List.append_nil, hs]
    · have := trim_append_append (m := []) (trimStart_of_trim_eq hs) (trimEnd_of_trim_eq ht) hs' ht'
      rwa [List.append_nil] at this

theorem exists_trimEnd_append (s : List Char) : ∃ t, s = trimEnd s ++ t ∧ ∀ c ∈ t, isBlank c = true :=
  ⟨s.rtakeWhile isBlank, (List.rdropWhile_append_rtakeWhile ..).symm,
    fun _ hc => List.mem_rtakeWhile_imp hc⟩

theorem trim_trim (s : List Char) : trim (trim s) = trim s := by
  rw [trim_eq_self_iff]
  refine ⟨trimStart_eq_self_iff.mpr ?_, List.rdropWhile_idempotent ..⟩
  intro c hc
  obtain ⟨blanks, h, -⟩ := exists_trimEnd_append (trimStart s)
  have hc' : (trimEnd (trimStart s)).head? = some c := hc
  have hhead : (s.dropWhile isBlank).head? = some c := by
    show (trimStart s).head? = some c
    rw [h, List.head?_append, hc', Option.some_or]
  have := List.head?_dropWhile_not isBlank s
  simpa [hhead] using this

theorem mem_trim (hc : isBlank c = false) (h : c ∈ s) : c ∈ trim s := by
  have hstart : c ∈ trimStart s := by
    rw [← List.takeWhile_append_dropWhile (p := isBlank) (l := s)] at h
    rcases List.mem_append.mp h with hblank | hrest
    · rw [List.mem_takeWhile_imp hblank] at hc
      cases hc
    · exact hrest
  obtain ⟨blanks, hs, hblanks⟩ := exists_trimEnd_append (trimStart s)
  rw [hs] at hstart
  rcases List.mem_append.mp hstart with hrest | hblank
  · exact hrest
  · rw [hblanks c hblank] at hc
    cases hc

theorem trim_isInfix (s : List Char) : trim s <:+: s :=
  (List.rdropWhile_prefix isBlank (trimStart s)).isInfix.trans (List.dropWhile_suffix isBlank).isInfix

theorem trim_of_no_blank (h : ∀ c ∈ s, isBlank c = false) : trim s = s := by
  refine trim_eq_self_iff.mpr ⟨trimStart_eq_self_iff.mpr ?_, trimEnd_eq_self_iff.mpr ?_⟩
  · exact fun c hc => h c (List.mem_of_head? hc)
  · exact fun c hc => h c (List.mem_of_getLast? hc)

theorem trim_cons_blank (h : isBlank c = true) (s : List Char) : trim (c :: s) = trim s := by
  simp [trim, trimStart, h]

theorem trim_blank_append (h : ∀ c ∈ s, isBlank c = true) (t : List Char) : trim (s ++ t) = trim t := by
  induction s with
  | nil => rfl
  | cons c s ih =>
    rw [List.cons_append, trim_cons_blank (h c List.mem_cons_self)]
    exact ih fun d hd => h d (List.mem_cons_of_mem _ hd)

theorem trim_append_blank (h : ∀ c ∈ t, isBlank c = true) : trim (s ++ t) = trim s := by
  unfold trim trimStart
  rw [List.dropWhile_append]
  split
  · next hs =>
    have hs' : s.dropWhile isBlank = [] := by simpa using hs
    have ht : t.dropWhile isBlank = [] := by simpa using h
    rw [hs', ht]
  · exact trimEnd_append_blank h

theorem trim_eq_nil_iff : trim s = [] ↔ ∀ c ∈ s, isBlank c = true := by
  unfold trim trimStart
  rw [trimEnd_eq_nil_iff]
  constructor
  · intro h
    have hs : s.dropWhile isBlank = [] := by
      by_contra hne
      obtain ⟨c, rest, hd⟩ := List.exists_cons_of_ne_nil hne
      have hc := List.head?_dropWhile_not isBlank s
      rw [hd] at h hc
      simp [h c List.mem_cons_self] at hc
    simpa using hs
  · intro h c hc
    exact h c ((List.dropWhile_suffix _).subset hc)

theorem trim_trimEnd (s : List Char) : trim (trimEnd s) = trim s := by
  obtain ⟨blanks, h, hblanks⟩ := exists_trimEnd_append s
  rw [← trim_append_blank hblanks, ← h]

end

end TableLayout.Text
