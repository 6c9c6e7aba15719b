import TableLayout.Proofs.Reflection.Run

/-!
# The identifier and the parent

The last identifier decides whether the record has an index: it has one exactly when that identifier has a
row. The parent index is taken at the last relation with a row: its place among all members, one less while
there is no index. It is the row of that relation only if as many rows are missing before it.
-/

namespace TableLayout

def lastId? (ms : List Member) : Option Member := (ms.filter (·.field.isId)).getLast?

def hasIdRow (ms : List Member) : Bool := (lastId? ms).any (!·.field.isNonInline)

theorem lastId?_snoc (ms : List Member) (m : Member) :
    lastId? (ms ++ [m]) = if m.field.isId then some m else lastId? ms := by
  unfold lastId?
  rw [List.filter_append]
  cases h : m.field.isId <;> simp [h]

theorem hasIdRow_snoc (ms : List Member) (m : Member) :
    hasIdRow (ms ++ [m]) = if m.field.isId then !m.field.isNonInline else hasIdRow ms := by
  unfold hasIdRow
  rw [lastId?_snoc]
  split <;> rfl

theorem lastId?_eq_none {ms : List Member} : lastId? ms = none ↔ ∀ m ∈ ms, m.field.isId = false := by
  unfold lastId?
  rw [List.getLast?_eq_none_iff, List.filter_eq_nil_iff]
  simp

theorem mem_of_lastId? {ms : List Member} {m : Member} (h : lastId? ms = some m) :
    m ∈ ms ∧ m.field.isId = true := by
  have := List.mem_of_getLast? h
  simpa using this

theorem hasIdRow_of_all_stored {ms : List Member} (h : ms.countP (·.field.isUnstored) = 0) :
    hasIdRow ms = true ↔ ∃ x ∈ ms, x.field.isId = true ∧ x.field.isNonInline = false := by
  have hs : ∀ x ∈ ms, x.field.isId = true → x.field.isNonInline = false := by
    intro x hx hid
    have := List.countP_eq_zero.mp h x hx
    simpa [Field.isUnstored, hid] using this
  unfold hasIdRow
  cases hl : lastId? ms with
  | none =>
    have := lastId?_eq_none.mp hl
    simp only [Option.any_none, Bool.false_eq_true, false_iff]
    rintro ⟨x, hx, hid, -⟩
    rw [this x hx] at hid
    cases hid
  | some x =>
    obtain ⟨hx, hid⟩ := mem_of_lastId? hl
    simp only [Option.any_some, hs x hx hid, Bool.not_false, true_iff]
    exact ⟨x, hx, hid, hs x hx hid⟩

/-- With a missing row there is an identifier, and the last one has no row exactly when it is outside. -/
theorem hasIdRow_of_unstored {ms : List Member} (h : 0 < ms.countP (·.field.isUnstored)) :
    hasIdRow ms = false ↔ ∃ x, lastId? ms = some x ∧ x.field.isNonInline = true := by
  obtain ⟨y, hy, hu⟩ := List.countP_pos_iff.mp h
  have hid : y.field.isId = true := by
    simp only [Field.isUnstored, Bool.and_eq_true] at hu
    exact hu.1
  unfold hasIdRow
  cases hl : lastId? ms with
  | none =>
    have := lastId?_eq_none.mp hl y hy
    rw [this] at hid
    cases hid
  | some x => simp

structure IsLastRelation (ms before : List Member) (m : Member) (after : List Member) : Prop where
  members_eq : ms = before ++ m :: after
  isRelation : m.field.isRelation = true
  isStored : m.field.isUnstored = false
  isLast : ∀ x ∈ after, x.field.isRelation = true → x.field.isUnstored = true

theorem isLastRelation_snoc {ms before after : List Member} {m x : Member} :
    IsLastRelation (ms ++ [x]) before m after ↔
      (after = [] ∧ ms = before ∧ x = m ∧ x.field.isRelation = true ∧ x.field.isUnstored = false) ∨
      (∃ after', after = after' ++ [x] ∧ IsLastRelation ms before m after' ∧
        (x.field.isRelation = true → x.field.isUnstored = true)) := by
  constructor
  · rintro ⟨e, hr, hs, hl⟩
    rcases List.eq_nil_or_concat after with rfl | ⟨after', y, rfl⟩
    · obtain ⟨rfl, h⟩ := List.append_inj' e rfl
      cases h
      exact .inl ⟨rfl, rfl, rfl, hr, hs⟩
    · rw [List.concat_eq_append] at *
      rw [← List.cons_append, ← List.append_assoc] at e
      obtain ⟨e', h⟩ := List.append_inj' e rfl
      cases h
      exact .inr ⟨after', rfl, ⟨e', hr, hs, fun z hz => hl z (List.mem_append_left _ hz)⟩,
        hl x (List.mem_append_right _ (List.mem_singleton_self x))⟩
  · rintro (⟨rfl, rfl, rfl, hr, hs⟩ | ⟨after', rfl, ⟨rfl, hr, hs, hl⟩, hx⟩)
    · exact ⟨rfl, hr, hs, fun z hz => by cases hz⟩
    · refine ⟨by simp, hr, hs, fun z hz => ?_⟩
      rcases List.mem_append.mp hz with hz | hz
      · exact hl z hz
      · rw [List.mem_singleton.mp hz]
        exact hx

namespace Reflection

/-- The positions after the members `seen`. -/
structure Positions (seen : List Member) (r : Reflection) : Prop where
  rows : r.rows.length = (storedMembers seen).length
  index : r.indexField = -1 ↔ hasIdRow seen = false
  noParent : (∀ x ∈ seen, x.field.isRelation = true → x.field.isUnstored = true) →
    r.parentIndexField = -1
  parent : ∀ before m after, IsLastRelation seen before m after →
    r.parentIndexField = .ofNat before.length + (if hasIdRow (before ++ [m]) then 0 else -1)

theorem initial_positions (total : Nat) : Positions [] (initial total) where
  rows := rfl
  index := by simp [initial, hasIdRow, lastId?]
  noParent _ := rfl
  parent before m after h := by simpa using h.members_eq

theorem ofNat_ne_neg_one {n : Nat} (h : n < 2 ^ 31) : Int32.ofNat n ≠ -1 := by
  intro e
  have := congrArg Int32.toInt e
  rw [Int32.toInt_ofNat_of_lt h] at this
  have e' : (-1 : Int32).toInt = -1 := by decide
  omega

section
variable {before : List Member} {m : Member} {r : Reflection} {row : MetaRow}

theorem Positions.skip (hp : Positions before r) (hu : m.field.isUnstored = true) :
    Positions (before ++ [m]) r.skipId := by
  have hid : m.field.isId = true ∧ m.field.isNonInline = true := by
    simpa [Field.isUnstored] using hu
  refine ⟨?_, ?_, fun h => ?_, fun front x after hx => ?_⟩
  · simpa [skipId, storedMembers_of_unstored hu] using hp.rows
  · simp [skipId, hasIdRow_snoc, hid]
  · exact hp.noParent fun x hx => h x (List.mem_append_left _ hx)
  · rcases isLastRelation_snoc.mp hx with ⟨-, -, -, -, hs⟩ | ⟨after', -, hx', -⟩
    · rw [hu] at hs
      cases hs
    · exact hp.parent front x after' hx'

theorem Positions.accept_index (hp : Positions before r) (hs : m.field.isUnstored = false)
    (hn : before.length < 2 ^ 31) :
    (r.noteId m.field).indexField = -1 ↔ hasIdRow (before ++ [m]) = false := by
  rw [noteId_indexField, hasIdRow_snoc]
  cases hid : m.field.isId with
  | false => simpa using hp.index
  | true =>
    have hi : m.field.isNonInline = false := by simpa [Field.isUnstored, hid] using hs
    have hrows : r.rows.length < 2 ^ 31 := by
      have := length_storedMembers_add before
      have := hp.rows
      omega
    simp [hi, ofNat_ne_neg_one hrows]

theorem Positions.accept (hp : Positions before r) (hs : m.field.isUnstored = false)
    (hn : before.length < 2 ^ 31) : Positions (before ++ [m]) (r.accept before.length m.field row) := by
  have hi := hp.accept_index hs hn
  refine ⟨?_, ?_, fun h => ?_, fun front x after hx => ?_⟩
  · simp [Reflection.accept, storedMembers_of_stored hs, hp.rows]
  · simpa [Reflection.accept] using hi
  · have hm : m.field.isRelation = false := by
      have := h m (List.mem_append_right _ (List.mem_singleton_self m))
      rw [hs] at this
      simpa using this
    have := hp.noParent fun x hx => h x (List.mem_append_left _ hx)
    simpa [Reflection.accept, noteRelation_parentIndexField, hm] using this
  · simp only [Reflection.accept, noteRelation_parentIndexField]
    rcases isLastRelation_snoc.mp hx with ⟨-, rfl, rfl, hr, -⟩ | ⟨after', -, hx', hm⟩
    · rw [if_pos hr]
      by_cases hrow : hasIdRow (before ++ [m]) = true
      · have : (r.noteId m.field).indexField ≠ -1 := fun e => by simp [hi.mp e] at hrow
        simp [hrow, this]
      · have hrow' := Bool.eq_false_iff.mpr hrow
        simp [hrow', hi.mpr hrow']
    · have hr : ¬ m.field.isRelation = true := fun hr => by simp [hm hr] at hs
      rw [if_neg hr, noteId_parentIndexField]
      exact hp.parent front x after' hx'

end

theorem run_positions {total : Nat} {ms : List Member} {r : Reflection} (hn : ms.length < 2 ^ 31)
    (h : (initial total).run 0 ms = .ok r) : Positions ms r := by
  refine run_invariant Positions (initial_positions total) ?_ h
  intro before m after r r' hms hp hs
  have hb : before.length < 2 ^ 31 := by
    rw [hms, List.length_append] at hn
    omega
  rcases step_cases hs with ⟨hu, rfl⟩ | ⟨hu, row, -, rfl⟩
  · exact hp.skip hu
  · exact hp.accept hu hb

theorem toInt_parent {n : Nat} (h : n < 2 ^ 31) (b : Bool) :
    (Int32.ofNat n + (if b then 0 else -1)).toInt = n + (if b then 0 else -1) := by
  cases b with
  | true => simpa using Int32.toInt_ofNat_of_lt h
  | false =>
    have e : (-1 : Int32).toInt = -1 := by decide
    simp only [Bool.false_eq_true, ite_false, Int32.toInt_add, Int32.toInt_ofNat_of_lt h, e]
    rw [Int.bmod_eq_of_le] <;> omega

end Reflection

/-! ## When the parent index is the row of the parent -/

section
variable {ms before after : List Member} {m : Member}

theorem exists_isLastRelation
    (h : ∃ x ∈ ms, x.field.isRelation = true ∧ x.field.isUnstored = false) :
    ∃ before m after, IsLastRelation ms before m after := by
  obtain ⟨before, m, after, hms, ⟨hr, hs⟩, hafter⟩ := exists_last h
  refine ⟨before, m, after, hms, hr, hs, ?_⟩
  intro x hx hxr
  by_contra hxs
  exact hafter x hx ⟨hxr, Bool.eq_false_iff.mpr hxs⟩

/-- No row is missing before `m` and an identifier up to `m` has one, or one row is missing and it is that
of the last identifier. -/
def RowsMatchShift (before : List Member) (m : Member) : Prop :=
  (before.countP (·.field.isUnstored) = 0 ∧
    ∃ x ∈ before ++ [m], x.field.isId = true ∧ x.field.isNonInline = false) ∨
  (before.countP (·.field.isUnstored) = 1 ∧
    ∃ x, lastId? (before ++ [m]) = some x ∧ x.field.isNonInline = true)

/-- The place, stepped back while there is no index, is the row exactly when as many rows are missing. -/
theorem shift_eq_row_iff (hs : m.field.isUnstored = false) :
    (before.length : Int) + (if hasIdRow (before ++ [m]) then 0 else -1) = (storedMembers before).length ↔
      RowsMatchShift before m := by
  have hlen := length_storedMembers_add before
  have hk : (before ++ [m]).countP (·.field.isUnstored) = before.countP (·.field.isUnstored) := by
    simp [hs]
  constructor
  · intro h
    cases hrow : hasIdRow (before ++ [m]) with
    | true =>
      rw [hrow, if_pos rfl] at h
      have h0 : before.countP (·.field.isUnstored) = 0 := by omega
      exact .inl ⟨h0, (hasIdRow_of_all_stored (hk.trans h0)).mp hrow⟩
    | false =>
      rw [hrow, if_neg Bool.false_ne_true] at h
      have h1 : before.countP (·.field.isUnstored) = 1 := by omega
      exact .inr ⟨h1, (hasIdRow_of_unstored (by omega)).mp hrow⟩
  · rintro (⟨h0, hx⟩ | ⟨h1, hx⟩)
    · rw [(hasIdRow_of_all_stored (hk.trans h0)).mpr hx, if_pos rfl]
      omega
    · rw [(hasIdRow_of_unstored (by omega)).mpr hx, if_neg Bool.false_ne_true]
      omega

structure OnlyIdFirst (ms front : List Member) (x : Member) (back : List Member) : Prop where
  members_eq : ms = front ++ x :: back
  isId : x.field.isId = true
  onlyId : ∀ y ∈ front ++ back, y.field.isId = false
  noRelation : ∀ y ∈ front, y.field.isRelation = false

theorem countP_unstored_eq_zero (h : ∀ y ∈ ms, y.field.isId = false) :
    ms.countP (·.field.isUnstored) = 0 := by
  rw [List.countP_eq_zero]
  intro y hy
  simp [Field.isUnstored, h y hy]

theorem only_id_shift {front back : List Member} {x : Member} (ho : OnlyIdFirst ms front x back)
    (hm : IsLastRelation ms before m after) : RowsMatchShift before m := by
  obtain ⟨e, hid, hno, hfront⟩ := ho
  obtain ⟨e', hr, hs, -⟩ := hm
  have hno₁ : ∀ y ∈ front, y.field.isId = false := fun y hy => hno y (List.mem_append_left _ hy)
  have hno₂ : ∀ y ∈ back, y.field.isId = false := fun y hy => hno y (List.mem_append_right _ hy)
  -- the relation stands at the identifier or behind it
  have place : (before = front ∧ m = x) ∨ ∃ mid, before = front ++ x :: mid ∧ m ∈ back ∧ ∀ y ∈ mid, y ∈ back := by
    rcases List.append_eq_append_iff.mp (e'.symm.trans e) with ⟨a, ha, hb⟩ | ⟨a, ha, hb⟩
    · cases a with
      | nil =>
        rw [List.append_nil] at ha
        exact .inl ⟨ha.symm, (List.cons.inj hb).1⟩
      | cons z a =>
        have hz : m = z := (List.cons.inj hb).1
        have : m ∈ front := by rw [ha, hz]; simp
        rw [hfront m this] at hr
        cases hr
    · cases a with
      | nil =>
        rw [List.append_nil] at ha
        exact .inl ⟨ha, (List.cons.inj hb).1.symm⟩
      | cons z a =>
        obtain ⟨rfl, rfl⟩ := List.cons.inj hb
        exact .inr ⟨a, ha, by simp, fun y hy => List.mem_append_left _ hy⟩
  rcases place with ⟨rfl, rfl⟩ | ⟨mid, rfl, hmb, hmid⟩
  · have hi : m.field.isNonInline = false := by simpa [Field.isUnstored, hid] using hs
    exact .inl ⟨countP_unstored_eq_zero hno₁, m, by simp, hid, hi⟩
  · have hmid' : ∀ y ∈ mid, y.field.isId = false := fun y hy => hno₂ y (hmid y hy)
    have hcount : (front ++ x :: mid).countP (·.field.isUnstored) = if x.field.isUnstored then 1 else 0 := by
      rw [List.countP_append, List.countP_cons, countP_unstored_eq_zero hno₁,
        countP_unstored_eq_zero hmid']
      omega
    have hlast : lastId? ((front ++ x :: mid) ++ [m]) = some x := by
      have h₁ : front.filter (·.field.isId) = [] := by simpa using hno₁
      have h₂ : mid.filter (·.field.isId) = [] := by simpa using hmid'
      rw [lastId?_snoc, hno₂ m hmb, if_neg Bool.false_ne_true]
      simp [lastId?, List.filter_append, hid, h₁, h₂]
    cases hi : x.field.isNonInline with
    | false =>
      refine .inl ⟨?_, x, by simp, hid, hi⟩
      simpa [Field.isUnstored, hi] using hcount
    | true =>
      refine .inr ⟨?_, x, hlast, hi⟩
      simpa [Field.isUnstored, hi, hid] using hcount

end

/-- The parent index is the row of the last relation with a row exactly if the rows missing before it match
the shift, which they do behind an only identifier; without such a relation there is no parent. -/
theorem Compilation.parent_index_iff (c : Compilation) (hn : c.members.length < 2 ^ 31) {r : Reflection}
    (hr : c.reflect = .ok r) :
    ((∃ x ∈ c.members, x.field.isRelation = true ∧ x.field.isUnstored = false) →
      ∃ before m after, IsLastRelation c.members before m after) ∧
    (∀ before m after, IsLastRelation c.members before m after →
      (∃ row, m.metaRow = .ok row ∧ r.rows[(storedMembers before).length]? = some row) ∧
      (r.parentIndexField.toInt = (storedMembers before).length ↔ RowsMatchShift before m) ∧
      ((∃ front x back, OnlyIdFirst c.members front x back) →
        r.parentIndexField.toInt = (storedMembers before).length)) ∧
    ((∀ x ∈ c.members, x.field.isRelation = true → x.field.isUnstored = true) →
      r.parentIndexField = -1) := by
  have hp := Reflection.run_positions hn hr
  refine ⟨exists_isLastRelation, fun before m after hm => ?_, hp.noParent⟩
  have hb : before.length < 2 ^ 31 := by
    have := congrArg List.length hm.members_eq
    rw [List.length_append] at this
    omega
  have hr' : (Reflection.initial c.members.length).run 0 (before ++ m :: after) = .ok r := by
    rw [← hm.members_eq]
    exact hr
  have hplace : r.parentIndexField.toInt =
      (before.length : Int) + (if hasIdRow (before ++ [m]) then 0 else -1) := by
    rw [hp.parent before m after hm, Reflection.toInt_parent hb]
  rw [hplace]
  refine ⟨Reflection.row_at hr' hm.isStored, shift_eq_row_iff hm.isStored, ?_⟩
  rintro ⟨front, x, back, ho⟩
  exact (shift_eq_row_iff hm.isStored).mpr (only_id_shift ho hm)

/-- The identifier outside the record stands first, and the relation behind it is found in the third row. -/
theorem parent_index_iff_spells : spellsCompiled.members.length < 2 ^ 31 ∧
    spellsCompiled.reflect = .ok spellsReflection ∧
    ∃ before m, IsLastRelation spellsCompiled.members before m [] ∧ (storedMembers before).length = 2 ∧
      spellsReflection.parentIndexField.toInt = (storedMembers before).length := by
  have hn : spellsCompiled.members.length < 2 ^ 31 := by decide
  have hlast : IsLastRelation spellsCompiled.members (spellsCompiled.members.take 3)
      spellsCompiled.members[3] [] := ⟨by decide, by decide, by decide, by simp⟩
  have hid : OnlyIdFirst spellsCompiled.members [] spellsCompiled.members[0]
      (spellsCompiled.members.drop 1) := ⟨by decide, by decide, by decide, by simp⟩
  obtain ⟨-, hparent, -⟩ := Compilation.parent_index_iff spellsCompiled hn reflect_spells
  exact ⟨hn, reflect_spells, _, _, hlast, by decide, (hparent _ _ _ hlast).2.2 ⟨_, _, _, hid⟩⟩

end TableLayout
