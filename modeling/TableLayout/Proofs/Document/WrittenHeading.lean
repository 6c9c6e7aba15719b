import TableLayout.Proofs.BuildText
import TableLayout.Proofs.Document.WrittenLine

/-!
# Written version lines are read back

The first word of a line decides whether it is a heading. Lists of hashes and of builds are taken apart at
their commas, and a field whose name is no keyword is read as a field.
-/

namespace TableLayout

open Text

/-! ## Headings -/

section
variable {keyword line : List Char}

theorem heading?_eq (hk : keyword.any isBlank = false) (line : List Char) :
    heading? keyword line = if line.takeWhile (!isBlank ·) = keyword
      then some (trim (line.dropWhile (!isBlank ·))) else none := by
  have hword : ∀ c ∈ keyword, (!isBlank c) = true := by simpa using hk
  unfold heading?
  cases hd : dropStart? keyword line with
  | none =>
    have hne : line.takeWhile (!isBlank ·) ≠ keyword := by
      intro e
      have : line = keyword ++ line.dropWhile (!isBlank ·) := by
        rw [← e, List.takeWhile_append_dropWhile]
      rw [dropStart?_eq_some.mpr this] at hd
      cases hd
    simp [hne]
  | some rest =>
    obtain rfl := dropStart?_eq_some.mp hd
    cases rest with
    | nil =>
      have hstop : ∀ c ∈ ([] : List Char).head?, (!isBlank c) = false := by simp
      rw [takeWhile_append_stop hword hstop, dropWhile_append_stop hword hstop]
      simp [trim, trimStart, trimEnd]
    | cons c rest =>
      by_cases hc : isBlank c = true
      · have hstop : ∀ d ∈ (c :: rest).head?, (!isBlank d) = false := by simp [hc]
        rw [takeWhile_append_stop hword hstop, dropWhile_append_stop hword hstop]
        simp [hc]
      · have hne : (keyword ++ c :: rest).takeWhile (!isBlank ·) ≠ keyword := by
          rw [List.takeWhile_append_of_pos hword]
          simp [hc]
        simp [hc, hne]

theorem heading?_trimEnd (hk : keyword.any isBlank = false) (line : List Char) :
    heading? keyword (trimEnd line) = heading? keyword line := by
  obtain ⟨blanks, hline, hblank⟩ := exists_trimEnd_append line
  have hstop : blanks.takeWhile (!isBlank ·) = [] := by
    cases blanks with
    | nil => rfl
    | cons c blanks => simp [hblank c List.mem_cons_self]
  have hrest : blanks.dropWhile (!isBlank ·) = blanks := by
    have := List.takeWhile_append_dropWhile (p := fun c => !isBlank c) (l := blanks)
    rwa [hstop] at this
  have htake : line.takeWhile (!isBlank ·) = (trimEnd line).takeWhile (!isBlank ·) := by
    rw [hline, List.takeWhile_append, hstop, List.append_nil, ← hline]
    split
    · next e => exact (List.takeWhile_prefix _).eq_of_length e |>.symm
    · rfl
  have hdrop : trim (line.dropWhile (!isBlank ·)) = trim ((trimEnd line).dropWhile (!isBlank ·)) := by
    rw [hline, List.dropWhile_append, hrest, ← hline]
    split
    · next e =>
      rw [List.isEmpty_iff.mp e]
      exact trim_append_blank (s := []) hblank
    · exact trim_append_blank hblank
  rw [heading?_eq hk, heading?_eq hk, htake, hdrop]

theorem heading?_append (hk : keyword.any isBlank = false) (rest : List Char) :
    heading? keyword (keyword ++ ' ' :: rest) = some (trim rest) := by
  have hword : ∀ c ∈ keyword, (!isBlank c) = true := by simpa using hk
  have hstop : ∀ c ∈ (' ' :: rest).head?, (!isBlank c) = false := by
    intro c hc
    cases hc
    decide
  rw [heading?_eq hk, takeWhile_append_stop hword hstop, dropWhile_append_stop hword hstop, if_pos rfl,
    trim_cons_blank (by decide)]

end

/-! ## Lists -/

/-- What a list between commas gives back. -/
structure IsListItem (item : List Char) : Prop where
  trimmed : trim item = item
  ne : item ≠ []
  no_comma : ',' ∉ item

section
variable {items : List (List Char)}

theorem intercalate_ne_nil {sep item : List Char} (hitem : item ≠ []) :
    sep.intercalate (item :: items) ≠ [] := by
  cases items with
  | nil => simpa using hitem
  | cons next items =>
    rw [List.intercalate_cons_cons]
    simp [hitem]

theorem trim_intercalate (sep : List Char) (h : ∀ item ∈ items, IsListItem item) :
    trim (sep.intercalate items) = sep.intercalate items := by
  induction items with
  | nil => rfl
  | cons item items ih =>
    have hitem := h item List.mem_cons_self
    have hrest : ∀ i ∈ items, IsListItem i := fun i hi => h i (List.mem_cons_of_mem _ hi)
    cases items with
    | nil =>
      rw [List.intercalate_singleton]
      exact hitem.trimmed
    | cons next items =>
      have hnext : next ≠ [] := (hrest next List.mem_cons_self).ne
      rw [List.intercalate_cons_cons]
      exact trim_append_append (trimStart_of_trim_eq hitem.trimmed) (trimEnd_of_trim_eq (ih hrest)) hitem.ne
        (intercalate_ne_nil hnext)

theorem listItems_intercalate (h : ∀ item ∈ items, IsListItem item) :
    listItems ([',', ' '].intercalate items) = items := by
  cases items with
  | nil => rfl
  | cons item items =>
    have hcomma : ∀ l ∈ item :: items.map (' ' :: ·), ',' ∉ l := by
      intro l hl hc
      rcases List.mem_cons.mp hl with rfl | hl
      · exact (h _ List.mem_cons_self).no_comma hc
      · obtain ⟨i, hi, rfl⟩ := List.mem_map.mp hl
        rcases List.mem_cons.mp hc with hc | hc
        · cases hc
        · exact (h i (List.mem_cons_of_mem _ hi)).no_comma hc
    have htrim : (item :: items.map (' ' :: ·)).map trim = item :: items := by
      rw [List.map_cons, (h _ List.mem_cons_self).trimmed, List.map_map]
      congr 1
      refine (List.map_congr_left fun i hi => ?_).trans (List.map_id _)
      exact (trim_cons_blank (by decide) i).trans (h i (List.mem_cons_of_mem _ hi)).trimmed
    unfold listItems
    rw [intercalate_comma_blank, List.splitOn_intercalate ',' hcomma (List.cons_ne_nil _ _), htrim,
      List.filter_eq_self]
    intro i hi
    simpa using (h i hi).ne

end

theorem Build.isListItem_text (b : Build) : IsListItem b.text.toList where
  trimmed := trim_of_no_blank fun _ => isBlank_of_mem_text
  ne := b.text_ne_nil
  no_comma := not_mem_text (by decide) (by decide)

theorem BuildRange.isListItem_text (r : BuildRange) : IsListItem r.text.toList where
  trimmed := trim_of_no_blank fun _ => isBlank_of_mem_text
  ne := by simp [toList_text]
  no_comma := by
    intro h
    rcases mem_text h with h | h | h <;> cases h

/-- No build holds a hyphen and every range does, so the two lists come apart again. -/
theorem readBuilds_append (builds : List Build) (ranges : List BuildRange) :
    readBuilds (builds.map (·.text.toList) ++ ranges.map (·.text.toList)) = .ok (builds, ranges) := by
  induction builds with
  | nil =>
    induction ranges with
    | nil => rfl
    | cons r ranges ih =>
      have hr : '-' ∈ r.text.toList := by simp [BuildRange.toList_text]
      simp only [List.map_nil, List.nil_append] at ih
      simp only [List.map_nil, List.nil_append, List.map_cons, readBuilds, if_pos hr, BuildRange.read_text, ih]
      rfl
  | cons b builds ih =>
    have hb : '-' ∉ b.text.toList := Build.not_mem_text (by decide) (by decide)
    simp only [List.map_cons, List.cons_append, readBuilds, if_neg hb, Build.read_text, ih]
    rfl

/-! ## Lines of a version -/

namespace VersionLine

def keywords : List String := ["LAYOUT", "BUILD", "COMMENT"]

theorem read_trimEnd (line : List Char) : read (trimEnd line) = read line := by
  unfold read
  rw [heading?_trimEnd (by decide), heading?_trimEnd (by decide), heading?_trimEnd (by decide),
    Field.read_trimEnd]

theorem read_layout {hashes : List String} (hne : hashes ≠ [])
    (h : ∀ hash ∈ hashes, IsListItem hash.toList) :
    read ("LAYOUT " ++ ", ".intercalate hashes).toList = .ok (.layout hashes) := by
  have hitems : ∀ item ∈ hashes.map String.toList, IsListItem item := by
    simpa using h
  have e : ("LAYOUT " ++ ", ".intercalate hashes).toList =
      "LAYOUT".toList ++ ' ' :: [',', ' '].intercalate (hashes.map String.toList) := by
    simp [String.toList_intercalate]
  unfold read
  rw [e, heading?_append (by decide), trim_intercalate _ hitems]
  simp only [readLayout, listItems_intercalate hitems]
  split
  · next hnil => exact absurd (List.map_eq_nil_iff.mp hnil) hne
  · simp [List.map_map, Function.comp_def]

theorem read_builds {builds : List Build} {ranges : List BuildRange}
    (hne : builds.map Build.text ++ ranges.map BuildRange.text ≠ []) :
    read ("BUILD " ++ ", ".intercalate (builds.map Build.text ++ ranges.map BuildRange.text)).toList =
      .ok (.builds builds ranges) := by
  have hmap : (builds.map Build.text ++ ranges.map BuildRange.text).map String.toList =
      builds.map (·.text.toList) ++ ranges.map (·.text.toList) := by
    simp [List.map_map, Function.comp_def]
  have hitems : ∀ item ∈ builds.map (·.text.toList) ++ ranges.map (·.text.toList), IsListItem item := by
    intro item hitem
    rcases List.mem_append.mp hitem with hitem | hitem
    · obtain ⟨b, -, rfl⟩ := List.mem_map.mp hitem
      exact b.isListItem_text
    · obtain ⟨r, -, rfl⟩ := List.mem_map.mp hitem
      exact r.isListItem_text
  have e : ("BUILD " ++ ", ".intercalate (builds.map Build.text ++ ranges.map BuildRange.text)).toList =
      "BUILD".toList ++ ' ' :: [',', ' '].intercalate
        (builds.map (·.text.toList) ++ ranges.map (·.text.toList)) := by
    rw [← hmap]
    simp [String.toList_intercalate]
  have hlayout : ∀ rest, heading? "LAYOUT".toList ("BUILD".toList ++ ' ' :: rest) = none := fun rest => rfl
  unfold read
  rw [e, hlayout, heading?_append (by decide), trim_intercalate _ hitems]
  simp only [readBuildLine, listItems_intercalate hitems]
  split
  · next hnil =>
    rw [← hmap] at hnil
    exact absurd (List.map_eq_nil_iff.mp hnil) hne
  · rw [readBuilds_append]

theorem read_comment {text : String} (h : trim text.toList = text.toList) :
    read ("COMMENT " ++ text).toList = .ok (.comment text) := by
  have e : ("COMMENT " ++ text).toList = "COMMENT".toList ++ ' ' :: text.toList := by simp
  have hlayout : ∀ rest, heading? "LAYOUT".toList ("COMMENT".toList ++ ' ' :: rest) = none := fun rest => rfl
  have hbuild : ∀ rest, heading? "BUILD".toList ("COMMENT".toList ++ ' ' :: rest) = none := fun rest => rfl
  unfold read
  rw [e, hlayout, hbuild, heading?_append (by decide), h]
  simp

theorem read_field {line : List Char}
    (h : ∀ keyword ∈ keywords, line.takeWhile (!isBlank ·) ≠ keyword.toList) :
    read line = (Field.read line).map .field := by
  have none_of : ∀ keyword ∈ keywords, keyword.toList.any isBlank = false →
      heading? keyword.toList line = none := fun keyword hk hword => by
    rw [heading?_eq hword, if_neg (h keyword hk)]
  unfold read
  rw [none_of "LAYOUT" (by decide) (by decide), none_of "BUILD" (by decide) (by decide),
    none_of "COMMENT" (by decide) (by decide)]

theorem read_canonicalText {f : Field} (h : f.Separable) : read f.canonicalText.toList = .ok (.field f) := by
  have hdollar : f.canonicalText.toList.takeWhile (!isBlank ·) =
      '$' :: ((",".intercalate f.annotations ++ "$" ++ f.bodyText).toList.takeWhile (!isBlank ·)) := by
    simp [Field.canonicalText, Field.annotationText, show isBlank '$' = false by decide]
  have hkeys : ∀ keyword ∈ keywords, keyword.toList.head? ≠ some '$' := by decide
  have hfirst : ∀ keyword ∈ keywords, f.canonicalText.toList.takeWhile (!isBlank ·) ≠ keyword.toList := by
    intro keyword hk e
    apply hkeys keyword hk
    rw [← e, hdollar]
    rfl
  rw [read_field hfirst, h.read_canonicalText]
  rfl

theorem read_plainText {f : Field} (h : f.Separable) (hname : ∀ c ∈ f.name.toList, isBlank c = false)
    (hmark : f.name.toList.head? ≠ some '$') (hkey : f.name ∉ keywords) :
    read f.plainText.toList = .ok (.field f) := by
  by_cases hflags : f.annotations.isEmpty = true
  · have hline : f.plainText.toList = f.partsText.toList ++ (commentText f.comment).toList := by
      simp [Field.plainText, hflags, Field.bodyText, Field.partsText]
    have hword : f.plainText.toList.takeWhile (!isBlank ·) = f.partsText.toList := by
      rw [hline]
      refine takeWhile_append_stop (fun c hc => ?_) (fun c hc => ?_)
      · rw [Field.toList_partsText] at hc
        rcases List.mem_append.mp hc with hc | hc
        · simp [hname c hc]
        · simp [(Field.isBlank_of_mem_brackets hc).1]
      · cases hcomment : f.comment with
        | none => simp [hcomment, commentText] at hc
        | some text =>
          simp only [hcomment, commentText, String.toList_append] at hc
          cases hc
          decide
    have hkeys : ∀ keyword ∈ keywords, keyword.toList.takeWhile (!isOpening ·) = keyword.toList := by decide
    have hfirst : ∀ keyword ∈ keywords, f.plainText.toList.takeWhile (!isBlank ·) ≠ keyword.toList := by
      intro keyword hk e
      rw [hword] at e
      have hn : f.name.toList = keyword.toList := by
        rw [← Field.takeWhile_partsText h.name_word, e, hkeys keyword hk]
      exact hkey (String.toList_inj.mp hn ▸ hk)
    rw [read_field hfirst, h.read_plainText hmark]
    rfl
  · have e : f.plainText = f.canonicalText := by simp [Field.plainText, Field.canonicalText, hflags]
    rw [e]
    exact read_canonicalText h

end VersionLine

end TableLayout
