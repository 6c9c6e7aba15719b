import TableLayout.Proofs.Document.ReaderRun

/-!
# One item on a build line

An item with a hyphen is read as a range and any other as a build. Nothing is lost by that: no build holds a hyphen
and every range does, so that an item that is a build or a range is taken as what it is, and all others are refused.
-/

namespace TableLayout

open Text

/-- What an item on a build line makes of a version: its build or its range comes last. -/
inductive Version.Takes (v : Version) (item : List Char) : Version → Prop
  | build (b : Build) : Build.read item = .ok b → v.Takes item { v with builds := v.builds ++ [b] }
  | range (r : BuildRange) : BuildRange.read item = .ok r → v.Takes item { v with ranges := v.ranges ++ [r] }

section
variable {item : List Char}

theorem Version.exists_takes_iff (v : Version) :
    (∃ v', v.Takes item v') ↔ (∃ b, Build.read item = .ok b) ∨ ∃ r, BuildRange.read item = .ok r := by
  constructor
  · intro ⟨v', h⟩
    cases h with
    | build b hb => exact .inl ⟨b, hb⟩
    | range r hr => exact .inr ⟨r, hr⟩
  · intro h
    rcases h with ⟨b, hb⟩ | ⟨r, hr⟩
    · exact ⟨_, .build b hb⟩
    · exact ⟨_, .range r hr⟩

theorem not_build_and_range : ¬((∃ b, Build.read item = .ok b) ∧ ∃ r, BuildRange.read item = .ok r) := by
  intro ⟨⟨b, hb⟩, ⟨r, hr⟩⟩
  exact Build.hyphen_not_mem_of_read hb (BuildRange.hyphen_mem_of_read hr)

theorem listItems_singleton (h : IsListItem item) : listItems item = [item] := by
  have hlist : listItems ([',', ' '].intercalate [item]) = [item] := listItems_intercalate (by simpa using h)
  rwa [List.intercalate_singleton] at hlist

theorem readBuildLine_singleton (h : IsListItem item) {said : VersionLine} : readBuildLine item = .ok said ↔
    (∃ b, Build.read item = .ok b ∧ said = .builds [b] []) ∨
      ∃ r, BuildRange.read item = .ok r ∧ said = .builds [] [r] := by
  unfold readBuildLine
  rw [listItems_singleton h]
  by_cases hyphen : '-' ∈ item
  · have hbuild : ∀ b, Build.read item ≠ .ok b := fun b hb => Build.hyphen_not_mem_of_read hb hyphen
    simp only [readBuilds, if_pos hyphen, hbuild, false_and, exists_false, false_or]
    cases BuildRange.read item with
    | error fault => simp [bind, Except.bind]
    | ok r => simp [bind, Except.bind, pure, Except.pure, eq_comm]
  · have hrange : ∀ r, BuildRange.read item ≠ .ok r := fun r hr => hyphen (BuildRange.hyphen_mem_of_read hr)
    simp only [readBuilds, if_neg hyphen, hrange, false_and, exists_false, or_false]
    cases Build.read item with
    | error fault => simp [bind, Except.bind]
    | ok b => simp [bind, Except.bind, pure, Except.pure, eq_comm]

theorem VersionLine.read_buildLine (h : IsListItem item) :
    VersionLine.read ("BUILD ".toList ++ item) = readBuildLine item := by
  have hlayout : heading? "LAYOUT".toList ("BUILD".toList ++ ' ' :: item) = none := rfl
  have hline : "BUILD ".toList ++ item = "BUILD".toList ++ ' ' :: item := by simp
  unfold VersionLine.read
  rw [hline, hlayout, heading?_append (by decide), h.trimmed]

theorem Version.takes_iff (h : IsListItem item) {v v' : Version} :
    v.Takes item v' ↔ ∃ said, VersionLine.read ("BUILD ".toList ++ item) = .ok said ∧ v.add said = v' := by
  rw [VersionLine.read_buildLine h]
  simp only [readBuildLine_singleton h]
  constructor
  · intro htakes
    cases htakes with
    | build b hb => exact ⟨_, .inl ⟨b, hb, rfl⟩, by simp [Version.add]⟩
    | range r hr => exact ⟨_, .inr ⟨r, hr, rfl⟩, by simp [Version.add]⟩
  · rintro ⟨said, ⟨b, hb, rfl⟩ | ⟨r, hr, rfl⟩, rfl⟩
    · simpa [Version.add] using Version.Takes.build (v := v) b hb
    · simpa [Version.add] using Version.Takes.range (v := v) r hr

theorem Reader.step_buildLine (h : IsListItem item) {d : Definitions} {current : Option Version} {r : Reader} :
    (Reader.versions d current).step (trimEnd ("BUILD ".toList ++ item)) = .ok r ↔
      ∃ v, (current.getD .empty).Takes item v ∧ r = .versions d (some v) := by
  have hne : trimEnd ("BUILD ".toList ++ item) ≠ [] := by
    rw [trimEnd_ne_nil_iff]
    exact ⟨'B', by simp, by decide⟩
  rw [Reader.step_version hne]
  simp only [Version.takes_iff h]
  constructor
  · intro ⟨said, hsaid, hr⟩
    exact ⟨_, ⟨said, hsaid, rfl⟩, hr⟩
  · rintro ⟨_, ⟨said, hsaid, rfl⟩, hr⟩
    exact ⟨said, hsaid, hr⟩

theorem Definitions.read_append_buildLine (h : IsListItem item) (hline : '\n' ∉ item) {front : List Char}
    {d d' : Definitions} {current : Option Version}
    (hfront : Reader.run 1 .start (lines (front ++ ['\n'])) = .ok (.versions d current)) :
    Definitions.read (front ++ '\n' :: ("BUILD ".toList ++ item)) = .ok d' ↔
      ∃ v, (current.getD .empty).Takes item v ∧ d' = d.pushVersion v := by
  have hone : lines ("BUILD ".toList ++ item) = ["BUILD ".toList ++ item] :=
    lines_of_not_mem (by simpa using hline) (by simp)
  unfold Definitions.read
  rw [lines_append_cons_newline, hone, Reader.run_append, hfront]
  simp only [bind_eq_ok, Except.ok.injEq, exists_eq_left', Reader.run_cons_eq_ok, Reader.step_buildLine h]
  constructor
  · rintro ⟨r, ⟨_, ⟨v, hv, rfl⟩, hrun⟩, hfinish⟩
    cases hrun
    exact ⟨v, hv, (Except.ok.inj hfinish).symm⟩
  · rintro ⟨v, hv, rfl⟩
    exact ⟨_, ⟨_, ⟨v, hv, rfl⟩, rfl⟩, rfl⟩

end

/-- Builds and ranges are read back from their texts, and no text is both. A line with one item, wherever it stands in
a version, is taken exactly when the item is one of the two, and that build or range is what it adds. -/
theorem build_items_classified : (∀ b : Build, Build.read b.text.toList = .ok b) ∧
    (∀ r : BuildRange, BuildRange.read r.text.toList = .ok r) ∧
    ∀ s : List Char, ¬((∃ b, Build.read s = .ok b) ∧ ∃ r, BuildRange.read s = .ok r) ∧
      (',' ∉ s → '\n' ∉ s → trim s = s → s ≠ [] → ∀ (d : Definitions) (current : Option Version),
        ((∃ v, (current.getD .empty).Takes s v) ↔ (∃ b, Build.read s = .ok b) ∨ ∃ r, BuildRange.read s = .ok r) ∧
        (∀ r, (Reader.versions d current).step (trimEnd ("BUILD ".toList ++ s)) = .ok r ↔
          ∃ v, (current.getD .empty).Takes s v ∧ r = .versions d (some v)) ∧
        ∀ front d', Reader.run 1 .start (lines (front ++ ['\n'])) = .ok (.versions d current) →
          (Definitions.read (front ++ '\n' :: ("BUILD ".toList ++ s)) = .ok d' ↔
            ∃ v, (current.getD .empty).Takes s v ∧ d' = d.pushVersion v)) := by
  refine ⟨Build.read_text, BuildRange.read_text, fun s => ⟨not_build_and_range, ?_⟩⟩
  intro hcomma hline htrim hne d current
  have hitem : IsListItem s := ⟨htrim, hne, hcomma⟩
  refine ⟨Version.exists_takes_iff _, fun r => Reader.step_buildLine hitem, ?_⟩
  intro front d' hfront
  exact Definitions.read_append_buildLine hitem hline hfront

/-- A range with white space around its hyphen, behind the hash of its version. -/
theorem build_items_classified_range :
    let front := "COLUMNS\nint ID\n\nLAYOUT A1".toList
    let item := "1.0.0.1 - 1.0.0.9".toList
    let d : Definitions := { columns := [⟨"ID", .int, none, true, none⟩], versions := [] }
    let range : BuildRange := ⟨⟨1, 0, 0, 1⟩, ⟨1, 0, 0, 9⟩⟩
    ',' ∉ item ∧ '\n' ∉ item ∧ trim item = item ∧ item ≠ [] ∧ BuildRange.read item = .ok range ∧
      (¬∃ b, Build.read item = .ok b) ∧
      Reader.run 1 .start (lines (front ++ ['\n'])) = .ok (.versions d (some ⟨["A1"], [], [], [], []⟩)) ∧
      Definitions.read (front ++ '\n' :: ("BUILD ".toList ++ item)) =
        .ok (d.pushVersion ⟨["A1"], [], [range], [], []⟩) := by
  intro front item d range
  have hcomma : ',' ∉ item := by decide
  have hline : '\n' ∉ item := by decide
  have htrim : trim item = item := by decide +kernel
  have hne : item ≠ [] := by decide
  have hrange : BuildRange.read item = .ok range := by decide +kernel
  have hfront : Reader.run 1 .start (lines (front ++ ['\n'])) =
      .ok (.versions d (some ⟨["A1"], [], [], [], []⟩)) := by decide +kernel
  obtain ⟨hone, htaken⟩ := build_items_classified.2.2 item
  obtain ⟨-, -, hread⟩ := htaken hcomma hline htrim hne d (some ⟨["A1"], [], [], [], []⟩)
  refine ⟨hcomma, hline, htrim, hne, hrange, fun hb => hone ⟨hb, range, hrange⟩, hfront, ?_⟩
  exact (hread front _ hfront).mpr ⟨_, .range range hrange, rfl⟩

end TableLayout
