import TableLayout.Proofs.Text.Trimming
import TableLayout.Text.Cut

/-!
# Texts put together and cut again

A cut at a separator that the front part does not hold takes the parts back; so do the lines of a text and the
items between commas.
-/

namespace TableLayout.Text

section
variable {sep : Char} {s t : List Char}

/-! ## Single separators -/

theorem cutAt_eq_none_iff : cutAt sep s = none ↔ sep ∉ s := by
  constructor
  · intro h hmem
    obtain ⟨before, after, rfl, hbefore⟩ := List.eq_append_cons_of_mem hmem
    rw [cutAt_append hbefore] at h
    cases h
  · exact cutAt_eq_none

theorem append_cons_inj {s' t' : List Char} (hs : sep ∉ s) (hs' : sep ∉ s')
    (h : s ++ sep :: t = s' ++ sep :: t') : s = s' ∧ t = t' := by
  have hcut := cutAt_append hs t
  rw [h, cutAt_append hs' t'] at hcut
  simpa [eq_comm] using hcut

theorem append_cons_inj_last {s' t' : List Char} (ht : sep ∉ t) (ht' : sep ∉ t')
    (h : s ++ sep :: t = s' ++ sep :: t') : s = s' ∧ t = t' := by
  -- read backwards, the last separator is the first
  have hback : t.reverse ++ sep :: s.reverse = t'.reverse ++ sep :: s'.reverse := by
    simpa using congrArg List.reverse h
  obtain ⟨htail, hfront⟩ := append_cons_inj (by simpa using ht) (by simpa using ht') hback
  exact ⟨List.reverse_injective hfront, List.reverse_injective htail⟩

/-! ## Pairs of separators -/

theorem cutAtPair_cons_eq_none_iff {a : Char} :
    cutAtPair sep (a :: s) = none ↔ ¬(a = sep ∧ s.head? = some sep) ∧ cutAtPair sep s = none := by
  cases s with
  | nil => simp [cutAtPair]
  | cons b s =>
    simp only [cutAtPair, List.head?_cons, Option.some.injEq]
    split
    · next h => simp [h]
    · next h => simp [h]

theorem cutAtPair_append_eq_none_iff : cutAtPair sep (s ++ t) = none ↔
    cutAtPair sep s = none ∧ cutAtPair sep t = none ∧ ¬(s.getLast? = some sep ∧ t.head? = some sep) := by
  induction s with
  | nil => simp [cutAtPair]
  | cons a s ih =>
    rw [List.cons_append, cutAtPair_cons_eq_none_iff, cutAtPair_cons_eq_none_iff, ih]
    cases s with
    | nil => simp [cutAtPair]; tauto
    | cons b s => simp; tauto

theorem cutAtPair_eq_none (h : sep ∉ s) : cutAtPair sep s = none := by
  induction s with
  | nil => rfl
  | cons a s ih =>
    have ha : a ≠ sep := fun e => h (e ▸ List.mem_cons_self)
    exact cutAtPair_cons_eq_none_iff.mpr ⟨fun e => ha e.1, ih fun m => h (List.mem_cons_of_mem _ m)⟩

/-- The first pair is the one that ends what has no pair before. -/
theorem cutAtPair_append (h : cutAtPair sep (s ++ [sep]) = none) (rest : List Char) :
    cutAtPair sep (s ++ sep :: sep :: rest) = some (s, rest) := by
  induction s with
  | nil => simp [cutAtPair]
  | cons a s ih =>
    rw [List.cons_append, cutAtPair_cons_eq_none_iff] at h
    have ih := ih h.2
    cases s with
    | nil =>
      have ha : a ≠ sep := fun e => h.1 ⟨e, rfl⟩
      simp [cutAtPair, ha]
    | cons b s =>
      have hab : ¬(a = sep ∧ b = sep) := fun e => h.1 ⟨e.1, by simp [e.2]⟩
      simp only [List.cons_append] at ih ⊢
      simp [cutAtPair, hab, ih]

theorem cutAtPair_eq_some {before after : List Char} : cutAtPair sep s = some (before, after) ↔
    s = before ++ sep :: sep :: after ∧ cutAtPair sep (before ++ [sep]) = none := by
  constructor
  · intro h
    induction s generalizing before with
    | nil => cases h
    | cons a s ih =>
      cases s with
      | nil => cases h
      | cons b s =>
        rw [cutAtPair] at h
        by_cases hab : a = sep ∧ b = sep
        · rw [if_pos hab] at h
          cases h
          exact ⟨by rw [hab.1, hab.2]; rfl, rfl⟩
        · rw [if_neg hab] at h
          obtain ⟨⟨front, rest⟩, hcut, e⟩ := Option.map_eq_some_iff.mp h
          cases e
          obtain ⟨hs, hnone⟩ := ih hcut
          refine ⟨by rw [hs]; rfl, ?_⟩
          rw [List.cons_append, cutAtPair_cons_eq_none_iff]
          refine ⟨fun e => hab ⟨e.1, ?_⟩, hnone⟩
          -- what follows `a` in the front part also follows it in the text
          cases front with
          | nil => exact (List.cons.inj hs).1
          | cons c front =>
            have := e.2
            rw [(List.cons.inj hs).1]
            simpa using this
  · rintro ⟨rfl, h⟩
    exact cutAtPair_append h after

theorem cutAtPair_of_isInfix (h : t <:+: s) (hs : cutAtPair sep s = none) : cutAtPair sep t = none := by
  obtain ⟨front, back, rfl⟩ := h
  rw [cutAtPair_append_eq_none_iff, cutAtPair_append_eq_none_iff] at hs
  exact hs.1.2.1

theorem cutAtPair_eq_none_iff : cutAtPair sep s = none ↔ ¬[sep, sep] <:+: s := by
  constructor
  · intro h hpair
    have hnone := cutAtPair_of_isInfix hpair h
    simp [cutAtPair] at hnone
  · intro h
    cases hcut : cutAtPair sep s with
    | none => rfl
    | some p =>
      obtain ⟨before, after⟩ := p
      rw [(cutAtPair_eq_some.mp hcut).1] at h
      exact absurd ⟨before, after, by simp⟩ h

theorem cutAtPair_append_right (h : sep ∉ t) :
    ∀ s : List Char, cutAtPair sep (s ++ t) = (cutAtPair sep s).map fun p => (p.1, p.2 ++ t)
  | [] => cutAtPair_eq_none h
  | [a] => by
    cases t with
    | nil => rfl
    | cons b t =>
      have hb : b ≠ sep := fun e => h (e ▸ List.mem_cons_self)
      simp [cutAtPair, hb, cutAtPair_eq_none h]
  | a :: b :: s => by
    have ih := cutAtPair_append_right h (b :: s)
    simp only [List.cons_append] at ih ⊢
    simp only [cutAtPair]
    split
    · rfl
    · rw [ih]
      cases cutAtPair sep (b :: s) <;> rfl

/-! ## Endings -/

theorem dropEnd?_append (ending s : List Char) : dropEnd? ending (s ++ ending) = some s := by
  simp [dropEnd?]

theorem dropEnd?_eq_some {ending : List Char} : dropEnd? ending s = some t ↔ s = t ++ ending := by
  constructor
  · intro h
    unfold dropEnd? at h
    split at h
    · next hs =>
      obtain ⟨front, rfl⟩ := List.isSuffixOf_iff_suffix.mp hs
      simpa using h
    · cases h
  · rintro rfl
    exact dropEnd?_append ending t

theorem dropEnd?_eq_none {c : Char} (h : s.getLast? ≠ some c) : dropEnd? [c] s = none := by
  unfold dropEnd?
  rw [if_neg]
  intro hs
  obtain ⟨front, rfl⟩ := List.isSuffixOf_iff_suffix.mp hs
  exact h (by simp)

theorem dropStart?_append (start s : List Char) : dropStart? start (start ++ s) = some s := by
  simp [dropStart?]

theorem dropStart?_eq_some {start : List Char} : dropStart? start s = some t ↔ s = start ++ t := by
  constructor
  · intro h
    unfold dropStart? at h
    split at h
    · next hp =>
      obtain ⟨rest, rfl⟩ := List.isPrefixOf_iff_prefix.mp hp
      simpa using h
    · cases h
  · rintro rfl
    exact dropStart?_append start t

/-! ## Runs of characters -/

theorem takeWhile_append_stop {p : Char → Bool} (hs : ∀ c ∈ s, p c = true)
    (ht : ∀ c ∈ t.head?, p c = false) : (s ++ t).takeWhile p = s := by
  rw [List.takeWhile_append_of_pos hs]
  cases t with
  | nil => simp
  | cons c t => simp [ht c rfl]

theorem dropWhile_append_stop {p : Char → Bool} (hs : ∀ c ∈ s, p c = true)
    (ht : ∀ c ∈ t.head?, p c = false) : (s ++ t).dropWhile p = t := by
  rw [List.dropWhile_append_of_pos hs]
  cases t with
  | nil => rfl
  | cons c t => simp [ht c rfl]

/-! ## Lines -/

theorem lines_flatMap_append {ls : List (List Char)} (h : ∀ l ∈ ls, '\n' ∉ l) (rest : List Char) :
    lines (ls.flatMap (· ++ ['\n']) ++ rest) = ls ++ lines rest := by
  induction ls with
  | nil => rfl
  | cons l ls ih =>
    rw [List.flatMap_cons, List.append_assoc, List.append_assoc, List.singleton_append,
      lines_append_newline (h l List.mem_cons_self), ih fun l' hl' => h l' (List.mem_cons_of_mem _ hl')]
    rfl

theorem lines_flatMap {ls : List (List Char)} (h : ∀ l ∈ ls, '\n' ∉ l) :
    lines (ls.flatMap (· ++ ['\n'])) = ls := by
  have hlines := lines_flatMap_append h []
  rwa [List.append_nil, show lines [] = [] from rfl, List.append_nil] at hlines

/-- The last newline can be left out after a line that is not empty. -/
theorem lines_intercalate {ls : List (List Char)} (h : ∀ l ∈ ls, '\n' ∉ l)
    (hlast : ∀ l ∈ ls.getLast?, l ≠ []) : lines (['\n'].intercalate ls) = ls := by
  induction ls with
  | nil => rfl
  | cons l ls ih =>
    have hl : '\n' ∉ l := h l List.mem_cons_self
    cases ls with
    | nil =>
      rw [List.intercalate_singleton]
      exact lines_of_not_mem hl (hlast l (by simp))
    | cons next ls =>
      rw [List.intercalate_cons_cons, List.append_assoc, List.singleton_append, lines_append_newline hl,
        ih (fun l' hl' => h l' (List.mem_cons_of_mem _ hl')) (by simpa using hlast)]

theorem lines_cons (c : Char) (s : List Char) :
    lines (c :: s) = if c = '\n' then [] :: lines s else extendLine c (lines s) := rfl

theorem lines_ne_nil (h : s ≠ []) : lines s ≠ [] := by
  cases s with
  | nil => exact absurd rfl h
  | cons c s =>
    rw [lines_cons]
    split
    · exact List.cons_ne_nil _ _
    · cases lines s <;> exact List.cons_ne_nil _ _

theorem mem_of_mem_lines {l : List Char} (h : l ∈ lines s) {c : Char} (hc : c ∈ l) : c ∈ s ∧ c ≠ '\n' := by
  induction s generalizing l with
  | nil => cases h
  | cons d s ih =>
    -- a character of a line of the rest
    have hrest : ∀ {l : List Char}, l ∈ lines s → c ∈ l → c ∈ d :: s ∧ c ≠ '\n' := fun hl hc =>
      ⟨List.mem_cons_of_mem _ (ih hl hc).1, (ih hl hc).2⟩
    rw [lines_cons] at h
    by_cases hd : d = '\n'
    · rw [if_pos hd] at h
      rcases List.mem_cons.mp h with rfl | h
      · cases hc
      · exact hrest h hc
    · have hfirst : c = d → c ∈ d :: s ∧ c ≠ '\n' := by
        rintro rfl
        exact ⟨List.mem_cons_self, hd⟩
      rw [if_neg hd] at h
      cases hs : lines s with
      | nil =>
        rw [hs] at h
        rw [List.mem_singleton.mp h] at hc
        exact hfirst (List.mem_singleton.mp hc)
      | cons first rest =>
        rw [hs] at h
        rcases List.mem_cons.mp h with rfl | h
        · rcases List.mem_cons.mp hc with hc | hc
          · exact hfirst hc
          · exact hrest (by simp [hs]) hc
        · exact hrest (by simp [hs, h]) hc

theorem newline_not_mem_lines {l : List Char} (h : l ∈ lines s) : '\n' ∉ l := fun hc => (mem_of_mem_lines h hc).2 rfl

theorem lines_append_cons_newline (s t : List Char) :
    lines (s ++ '\n' :: t) = lines (s ++ ['\n']) ++ lines t := by
  induction s with
  | nil => rfl
  | cons c s ih =>
    rw [List.cons_append, List.cons_append, lines_cons, lines_cons, ih]
    by_cases hc : c = '\n'
    · simp [hc]
    · rw [if_neg hc, if_neg hc]
      obtain ⟨l, ls, hl⟩ := List.exists_cons_of_ne_nil (lines_ne_nil (s := s ++ ['\n']) (by simp))
      rw [hl]
      rfl

theorem lines_newline_end (s : List Char) :
    lines (s ++ ['\n']) = lines s ∨ lines (s ++ ['\n']) = lines s ++ [[]] := by
  induction s with
  | nil => exact .inr rfl
  | cons c s ih =>
    rw [List.cons_append, lines_cons, lines_cons]
    by_cases hc : c = '\n'
    · simpa [hc] using ih
    · rw [if_neg hc, if_neg hc]
      rcases ih with e | e
      · exact .inl (by rw [e])
      · rw [e]
        cases lines s with
        | nil => exact .inl rfl
        | cons l ls => exact .inr rfl

/-- After two newlines the lines start anew, behind one empty line or two. -/
theorem lines_append_blank (s t : List Char) : ∃ gap, gap ≠ [] ∧ (∀ l ∈ gap, l = []) ∧
    lines (s ++ '\n' :: '\n' :: t) = lines s ++ (gap ++ lines t) := by
  have e : lines (s ++ '\n' :: '\n' :: t) = lines (s ++ ['\n']) ++ [] :: lines t :=
    lines_append_cons_newline s ('\n' :: t)
  rcases lines_newline_end s with h | h
  · exact ⟨[[]], by simp, by simp, by rw [e, h]; rfl⟩
  · exact ⟨[[], []], by simp, by simp, by rw [e, h]; simp⟩

/-! ## Items between commas -/

theorem mem_of_mem_intercalate {α : Type} {sep : List α} {items : List (List α)} {c : α}
    (h : c ∈ sep.intercalate items) : c ∈ sep ∨ ∃ item ∈ items, c ∈ item := by
  induction items with
  | nil => cases h
  | cons item items ih =>
    cases items with
    | nil =>
      rw [List.intercalate_singleton] at h
      exact .inr ⟨item, List.mem_cons_self, h⟩
    | cons next items =>
      rw [List.intercalate_cons_cons, List.mem_append, List.mem_append] at h
      rcases h with (h | h) | h
      · exact .inr ⟨item, List.mem_cons_self, h⟩
      · exact .inl h
      · exact (ih h).imp_right fun ⟨i, hi, hc⟩ => ⟨i, List.mem_cons_of_mem _ hi, hc⟩

theorem infix_intercalate {sep item : List Char} {items : List (List Char)} (h : item ∈ items) :
    item <:+: sep.intercalate items := by
  induction items with
  | nil => cases h
  | cons first items ih =>
    cases items with
    | nil =>
      have hitem : sep.intercalate [first] = item := by
        rw [List.mem_singleton.mp h, List.intercalate_singleton]
      exact hitem ▸ List.infix_rfl
    | cons next items =>
      rw [List.intercalate_cons_cons]
      rcases List.mem_cons.mp h with rfl | h
      · rw [List.append_assoc]
        exact (List.prefix_append _ _).isInfix
      · exact (ih h).trans (List.suffix_append _ _).isInfix

theorem infix_of_mem_splitOn {item : List Char} (h : item ∈ s.splitOn sep) : item <:+: s := by
  have hwithin : item <:+: [sep].intercalate (s.splitOn sep) := infix_intercalate h
  rwa [List.intercalate_splitOn] at hwithin

theorem splitOn_cons_self (sep : Char) (s : List Char) : (sep :: s).splitOn sep = [] :: s.splitOn sep := by
  rw [List.splitOn_cons_eq_if_modifyHead, if_pos (beq_self_eq_true sep)]

theorem splitOn_cons_of_ne {c : Char} {first : List Char} {rest : List (List Char)} (hc : c ≠ sep)
    (h : s.splitOn sep = first :: rest) : (c :: s).splitOn sep = (c :: first) :: rest := by
  rw [List.splitOn_cons_eq_if_modifyHead, if_neg (by simpa using hc), h, List.modifyHead_cons]

theorem splitOn_append_of_not_mem {first : List Char} {rest : List (List Char)} (hs : sep ∉ s)
    (h : t.splitOn sep = first :: rest) : (s ++ t).splitOn sep = (s ++ first) :: rest := by
  induction s with
  | nil => exact h
  | cons c s ih =>
    have hc : c ≠ sep := fun e => hs (e ▸ List.mem_cons_self)
    exact splitOn_cons_of_ne hc (ih fun hmem => hs (List.mem_cons_of_mem _ hmem))

theorem eq_false_of_mem_splitOnP {p : Char → Bool} {s item : List Char} (h : item ∈ s.splitOnP p) :
    ∀ c ∈ item, p c = false := by
  induction s generalizing item with
  | nil =>
    rw [List.splitOnP_nil, List.mem_singleton] at h
    simp [h]
  | cons c s ih =>
    rw [List.splitOnP_cons_eq_if_modifyHead] at h
    by_cases hc : p c = true
    · rw [if_pos hc] at h
      rcases List.mem_cons.mp h with rfl | h
      · simp
      · exact ih h
    · obtain ⟨first, rest, hsplit⟩ := List.exists_cons_of_ne_nil (List.splitOnP_ne_nil p s)
      rw [if_neg hc, hsplit, List.modifyHead_cons] at h
      rcases List.mem_cons.mp h with rfl | h
      · intro d hd
        rcases List.mem_cons.mp hd with rfl | hd
        · simpa using hc
        · exact ih (by simp [hsplit]) d hd
      · exact ih (by simp [hsplit, h])

theorem not_mem_of_mem_splitOn {item : List Char} (h : item ∈ s.splitOn sep) : sep ∉ item := by
  rw [List.splitOn_eq_splitOnP] at h
  intro hsep
  have := eq_false_of_mem_splitOnP h sep hsep
  simp at this

theorem intercalate_comma_blank (item : List Char) (items : List (List Char)) :
    [',', ' '].intercalate (item :: items) = [','].intercalate (item :: items.map (' ' :: ·)) := by
  induction items generalizing item with
  | nil => simp
  | cons next items ih =>
    rw [List.intercalate_cons_cons, ih, List.map_cons, List.intercalate_cons_cons]
    cases items <;> simp [List.intercalate_cons_cons]

theorem intercalate_comma_blank_inj {items items' : List (List Char)} (hne : items ≠ []) (hne' : items' ≠ [])
    (h : ∀ item ∈ items, ',' ∉ item) (h' : ∀ item ∈ items', ',' ∉ item)
    (heq : [',', ' '].intercalate items = [',', ' '].intercalate items') : items = items' := by
  obtain ⟨first, rest, rfl⟩ := List.exists_cons_of_ne_nil hne
  obtain ⟨first', rest', rfl⟩ := List.exists_cons_of_ne_nil hne'
  have split : ∀ (item : List Char) (items : List (List Char)), (∀ i ∈ item :: items, ',' ∉ i) →
      ([',', ' '].intercalate (item :: items)).splitOn ',' = item :: items.map (' ' :: ·) := by
    intro item items hall
    rw [intercalate_comma_blank]
    refine List.splitOn_intercalate ',' ?_ (List.cons_ne_nil _ _)
    simpa using hall
  have hsplit := split first rest h
  rw [heq, split first' rest' h'] at hsplit
  obtain ⟨hfirst, hrest⟩ := List.cons.inj hsplit
  have hblank : Function.Injective fun item : List Char => ' ' :: item := List.cons_injective
  rw [hfirst, List.map_injective_iff.mpr hblank hrest]

end

end TableLayout.Text
