import TableLayout.Proofs.Document.RoundTrip

/-!
# What is read of a line can be written

Every part that a reader takes out of a line is a stretch of it. What the separators of a line ask of the parts
that are written therefore holds of all parts that are read, whatever their characters.
-/

namespace TableLayout

open Text

/-! ## Comments -/

section
variable {line : List Char}

theorem splitComment_body (line : List Char) : trim (splitComment line).1 = (splitComment line).1 ∧
    (splitComment line).1 <:+: line ∧ cutAtPair '/' (splitComment line).1 = none := by
  unfold splitComment
  cases hcut : cutAtPair '/' line with
  | none => exact ⟨trim_trim line, trim_isInfix line, cutAtPair_of_isInfix (trim_isInfix line) hcut⟩
  | some p =>
    obtain ⟨body, comment⟩ := p
    obtain ⟨hline, hnone⟩ := cutAtPair_eq_some.mp hcut
    have hbody : body <:+: line := by
      rw [hline]
      exact (List.prefix_append _ _).isInfix
    refine ⟨trim_trim body, (trim_isInfix body).trans hbody, cutAtPair_of_isInfix (trim_isInfix body) ?_⟩
    exact (cutAtPair_append_eq_none_iff.mp hnone).1

theorem isRemark_of_splitComment (hline : '\n' ∉ line) :
    ∀ text ∈ (splitComment line).2.map String.ofList, IsRemark text := by
  intro text htext
  obtain ⟨chars, hchars, rfl⟩ := Option.map_eq_some_iff.mp htext
  unfold splitComment at hchars
  cases hcut : cutAtPair '/' line with
  | none =>
    rw [hcut] at hchars
    cases hchars
  | some p =>
    obtain ⟨body, comment⟩ := p
    rw [hcut] at hchars
    cases hchars
    have hcomment : comment <:+: line := by
      rw [(cutAtPair_eq_some.mp hcut).1]
      exact ((List.suffix_cons _ _).trans ((List.suffix_cons _ _).trans (List.suffix_append _ _))).isInfix
    constructor
    · rw [String.toList_ofList, trim_trim]
    · rw [String.toList_ofList]
      intro hmem
      exact hline (((trim_isInfix comment).trans hcomment).subset hmem)

end

/-! ## Columns -/

namespace Column

theorem foreignKey_of_read {token rest : List Char} {key : ForeignKey} (h : readForeignKey token rest = .ok key) :
    rest = key.table.toList ++ ':' :: ':' :: key.column.toList ++ ['>'] ∧
      cutAtPair ':' (key.table.toList ++ [':']) = none := by
  unfold readForeignKey at h
  split at h
  · cases h
  · next inner hend =>
    split at h
    · cases h
    · next table column hcut =>
      cases h
      obtain ⟨hinner, hnone⟩ := cutAtPair_eq_some.mp hcut
      simp only [String.toList_ofList]
      exact ⟨by rw [dropEnd?_eq_some.mp hend, hinner], hnone⟩

variable {c : Column} {token rest : List Char}

theorem tokenText_of_readType (h : readType token = .ok (c.type, c.foreign)) :
    c.tokenText.toList = token ∧ .ofToken c.type.token = c.type ∧ '<' ∉ c.type.token.toList ∧
      ∀ key ∈ c.foreign, cutAtPair ':' (key.table.toList ++ [':']) = none := by
  unfold readType at h
  unfold tokenText
  split at h
  · next hcut =>
    have hpair := Except.ok.inj h
    have htype : c.type = .ofToken (String.ofList token) := (congrArg Prod.fst hpair).symm
    have hforeign : c.foreign = none := (congrArg Prod.snd hpair).symm
    have hnone := cutAt_eq_none_iff.mp hcut
    simp [htype, hforeign, hnone]
  · next type afterOpening hcut =>
    obtain ⟨key, hkey, h⟩ := bind_eq_ok.mp h
    have hpair := Except.ok.inj h
    have htype : c.type = .ofToken (String.ofList type) := (congrArg Prod.fst hpair).symm
    have hforeign : c.foreign = some key := (congrArg Prod.snd hpair).symm
    obtain ⟨htoken, hword⟩ := cutAt_eq_some.mp hcut
    obtain ⟨hrest, htable⟩ := foreignKey_of_read hkey
    simp [htype, hforeign, htoken, hword, htable, hrest, ForeignKey.text]

theorem nameText_of_readColumnName (h : readColumnName rest = (c.name.toList, c.verified)) :
    c.nameText.toList = trim rest ∧ (c.verified = true → c.name.toList.getLast? ≠ some '?') := by
  unfold readColumnName at h
  unfold nameText
  split at h
  · next name hend =>
    obtain ⟨hname, hverified⟩ := Prod.mk.inj h
    rw [← hverified, dropEnd?_eq_some.mp hend, hname]
    simp
  · next hend =>
    obtain ⟨hname, hverified⟩ := Prod.mk.inj h
    rw [← hverified, ← hname]
    refine ⟨by simp [← hname], fun _ hlast => ?_⟩
    obtain ⟨front, hfront⟩ := List.getLast?_eq_some_iff.mp hlast
    rw [dropEnd?_eq_some.mpr hfront] at hend
    cases hend

theorem parts_of_read {line : List Char} (h : read line = .ok c) : ∃ token rest,
    (splitComment line).1 = token ++ ' ' :: rest ∧ ' ' ∉ token ∧ readType token = .ok (c.type, c.foreign) ∧
      readColumnName rest = (c.name.toList, c.verified) ∧ c.name ≠ "" ∧
      c.comment = (splitComment line).2.map String.ofList := by
  unfold read at h
  dsimp only at h
  split at h
  · cases h
  · next token rest hcut =>
    obtain ⟨⟨type, foreign⟩, htype, h⟩ := bind_eq_ok.mp h
    dsimp only at h
    split at h
    · cases h
    · next hne =>
      cases h
      obtain ⟨hbody, hword⟩ := cutAt_eq_some.mp hcut
      refine ⟨token, rest, hbody, hword, htype, ?_, ?_, rfl⟩
      · simp
      · simpa using hne

section
variable {line : List Char} (h : read line = .ok c) (hline : '\n' ∉ line)
include h hline

theorem separable_of_read : c.Separable := by
  obtain ⟨token, rest, hbody, hword, hread, hname, hne, hcomment⟩ := parts_of_read h
  obtain ⟨htrim, -, hpair⟩ := splitComment_body line
  obtain ⟨htoken, htype, hopening, hkey⟩ := tokenText_of_readType hread
  obtain ⟨hnameText, hmark⟩ := nameText_of_readColumnName hname
  rw [hbody] at htrim hpair
  have hstart := trimStart_of_trim_eq htrim
  rw [trimStart_eq_self_iff] at hstart
  have htoken_ne : token ≠ [] := by
    rintro rfl
    exact absurd (hstart ' ' rfl) (by decide)
  have hsplit : token ++ ' ' :: rest = token ++ [' '] ++ rest := by simp
  exact {
    type_token := htype
    token_start := by
      rw [htoken, trimStart_eq_self_iff]
      intro a ha
      exact hstart a (by rwa [List.head?_append_of_ne_nil _ htoken_ne])
    token_ne := by
      intro e
      rw [e] at htoken
      exact htoken_ne htoken.symm
    token_word := htoken ▸ hword
    type_word := hopening
    key_table := hkey
    name_trimmed := by rw [hnameText, trim_trim]
    name_ne := hne
    name_mark := hmark
    no_comment := by
      rw [hsplit, cutAtPair_append_eq_none_iff] at hpair
      rw [htoken, hnameText, cutAtPair_append_eq_none_iff]
      -- the blank between the two keeps their slashes apart
      exact ⟨hpair.1, cutAtPair_of_isInfix (trim_isInfix rest) hpair.2.1, by simp⟩
    comment_trimmed := fun text htext => (isRemark_of_splitComment hline text (hcomment ▸ htext)).trimmed }

theorem newline_not_mem_text_of_read : '\n' ∉ c.text.toList := by
  obtain ⟨token, rest, hbody, -, hread, hname, -, hcomment⟩ := parts_of_read h
  obtain ⟨-, hwithin, -⟩ := splitComment_body line
  obtain ⟨htoken, -, -, -⟩ := tokenText_of_readType hread
  obtain ⟨hnameText, -⟩ := nameText_of_readColumnName hname
  have hnewline : '\n' ∉ token ++ ' ' :: rest := by
    intro hmem
    exact hline (hwithin.subset (hbody ▸ hmem))
  simp only [List.mem_append, List.mem_cons, not_or] at hnewline
  have hrest : '\n' ∉ trim rest := fun hmem => hnewline.2.2 ((trim_isInfix rest).subset hmem)
  have hremark := newline_not_mem_commentText (hcomment ▸ isRemark_of_splitComment hline)
  rw [toList_text, htoken, hnameText]
  simp [hnewline.1, hrest, hremark]

end

end Column

/-! ## Fields -/

namespace Field

theorem suffix_of_takeAnnotations {body rest : List Char} {list : Option (List Char)}
    (h : takeAnnotations body = .ok (list, rest)) : rest <:+ body := by
  unfold takeAnnotations at h
  split at h
  · split at h
    · next hcut =>
      cases h
      rw [(cutAt_eq_some.mp hcut).1]
      exact (List.suffix_cons _ _).trans ((List.suffix_append _ _).trans (List.suffix_cons _ _))
    · cases h
  · cases h
    exact List.suffix_rfl

variable {f : Field}

theorem read_eq_ok_iff {line : List Char} : read line = .ok f ↔ ∃ list rest tail back,
    takeAnnotations (splitComment line).1 = .ok (list, rest) ∧ trim (rest.takeWhile (!isOpening ·)) ≠ [] ∧
      takeSize rest (rest.dropWhile (!isOpening ·)) = .ok ((f.isSigned, f.size), tail) ∧
      takeLength rest tail = .ok (f.length, back) ∧ trim back = [] ∧
      f.name = String.ofList (trim (rest.takeWhile (!isOpening ·))) ∧
      f.isId = (annotationItems list).contains "id".toList ∧
      f.isRelation = (annotationItems list).contains "relation".toList ∧
      f.isNonInline = (annotationItems list).contains "noninline".toList ∧
      f.comment = (splitComment line).2.map String.ofList := by
  unfold read
  constructor
  · intro h
    obtain ⟨⟨list, rest⟩, hlist, h⟩ := bind_eq_ok.mp h
    dsimp only at h
    split at h
    · cases h
    · next hname =>
      obtain ⟨⟨⟨isSigned, size⟩, tail⟩, hsize, h⟩ := bind_eq_ok.mp h
      obtain ⟨⟨length, back⟩, hlength, h⟩ := bind_eq_ok.mp h
      dsimp only at h
      split at h
      · cases h
      · next hback =>
        cases h
        exact ⟨list, rest, tail, back, hlist, by simpa using hname, hsize, hlength, by simpa using hback, rfl, rfl,
          rfl, rfl, rfl⟩
  · intro h
    obtain ⟨list, rest, tail, back, hlist, hname, hsize, hlength, hback, e₁, e₂, e₃, e₄, e₅⟩ := h
    obtain ⟨name, size, isSigned, length, isId, isRelation, isNonInline, comment⟩ := f
    dsimp only at hsize hlength e₁ e₂ e₃ e₄ e₅
    have hne : (trim (rest.takeWhile (!isOpening ·))).isEmpty = false := by simpa using hname
    subst e₁ e₂ e₃ e₄ e₅
    simp [hlist, hsize, hlength, hne, hback, bind, Except.bind, pure, Except.pure]

section
variable {line : List Char} (h : read line = .ok f) (hline : '\n' ∉ line)
include h hline

theorem separable_of_read : f.Separable := by
  obtain ⟨list, rest, -, -, htake, hne, -, -, -, hname, -, -, -, hcomment⟩ := read_eq_ok_iff.mp h
  obtain ⟨-, -, hpair⟩ := splitComment_body line
  have hname : f.name.toList = trim (rest.takeWhile (!isOpening ·)) := by rw [hname, String.toList_ofList]
  have hwithin : f.name.toList <:+: (splitComment line).1 := by
    rw [hname]
    exact (trim_isInfix _).trans ((List.takeWhile_prefix _).isInfix.trans (suffix_of_takeAnnotations htake).isInfix)
  exact {
    name_trimmed := by rw [hname, trim_trim]
    name_ne := by
      intro e
      rw [e] at hname
      exact hne hname.symm
    name_word := by
      intro a ha
      rw [hname] at ha
      simpa using List.mem_takeWhile_imp ((trim_isInfix _).subset ha)
    no_comment := cutAtPair_of_isInfix hwithin hpair
    comment_trimmed := fun text htext => (isRemark_of_splitComment hline text (hcomment ▸ htext)).trimmed }

theorem newline_not_mem_canonicalText_of_read : '\n' ∉ f.canonicalText.toList := by
  obtain ⟨list, rest, -, -, htake, -, -, -, -, hname, -, -, -, hcomment⟩ := read_eq_ok_iff.mp h
  obtain ⟨-, hwithin, -⟩ := splitComment_body line
  refine newline_not_mem_canonicalText ?_ (hcomment ▸ isRemark_of_splitComment hline)
  rw [hname, String.toList_ofList]
  intro hmem
  have hrest := (List.takeWhile_prefix _).subset ((trim_isInfix _).subset hmem)
  exact hline (hwithin.subset ((suffix_of_takeAnnotations htake).subset hrest))

end

end Field

/-! ## Lines of a version -/

theorem heading?_body {keyword line rest : List Char} (h : heading? keyword line = some rest) :
    trim rest = rest ∧ rest <:+: line := by
  unfold heading? at h
  split at h
  · cases h
    exact ⟨rfl, List.nil_infix⟩
  · next c after hdrop =>
    split at h
    · cases h
      refine ⟨trim_trim _, ?_⟩
      rw [dropStart?_eq_some.mp hdrop]
      exact (trim_isInfix _).trans (List.suffix_append _ _).isInfix
    · cases h
  · cases h

theorem isListItem_of_mem_listItems {s item : List Char} (h : item ∈ listItems s) :
    IsListItem item ∧ item <:+: s := by
  unfold listItems at h
  obtain ⟨hmem, hne⟩ := List.mem_filter.mp h
  obtain ⟨part, hpart, rfl⟩ := List.mem_map.mp hmem
  have hcomma := not_mem_of_mem_splitOn hpart
  refine ⟨⟨trim_trim part, by simpa using hne, ?_⟩, (trim_isInfix part).trans (infix_of_mem_splitOn hpart)⟩
  exact fun hmem => hcomma ((trim_isInfix part).subset hmem)

theorem eq_nil_of_readBuilds {items : List (List Char)} (h : readBuilds items = .ok ([], [])) : items = [] := by
  cases items with
  | nil => rfl
  | cons item items =>
    rw [readBuilds] at h
    split at h
    · obtain ⟨range, -, h⟩ := bind_eq_ok.mp h
      obtain ⟨⟨builds, ranges⟩, -, h⟩ := bind_eq_ok.mp h
      cases h
    · obtain ⟨build, -, h⟩ := bind_eq_ok.mp h
      obtain ⟨⟨builds, ranges⟩, -, h⟩ := bind_eq_ok.mp h
      cases h

/-! ## What can be written -/

structure Column.Writable (c : Column) : Prop where
  separable : c.Separable
  one_line : '\n' ∉ c.text.toList

structure Field.Writable (f : Field) : Prop where
  separable : f.Separable
  one_line : '\n' ∉ f.canonicalText.toList

structure IsHash (hash : String) : Prop where
  item : IsListItem hash.toList
  one_line : '\n' ∉ hash.toList

namespace VersionLine

def Writable : VersionLine → Prop
  | .layout hashes => hashes ≠ [] ∧ ∀ hash ∈ hashes, IsHash hash
  | .builds bs rs => bs ≠ [] ∨ rs ≠ []
  | .comment text => IsRemark text
  | .field f => f.Writable

variable {line rest : List Char} {said : VersionLine}

theorem writable_of_readLayout (h : readLayout rest = .ok said) (hrest : '\n' ∉ rest) : said.Writable := by
  unfold readLayout at h
  split at h
  · cases h
  · next items hne =>
    cases h
    refine ⟨by simpa using hne, ?_⟩
    intro hash hhash
    obtain ⟨item, hitem, rfl⟩ := List.mem_map.mp hhash
    obtain ⟨hlist, hwithin⟩ := isListItem_of_mem_listItems hitem
    constructor
    · rwa [String.toList_ofList]
    · rw [String.toList_ofList]
      exact fun hmem => hrest (hwithin.subset hmem)

theorem writable_of_readBuildLine (h : readBuildLine rest = .ok said) : said.Writable := by
  unfold readBuildLine at h
  split at h
  · cases h
  · next items hne =>
    split at h
    · next bs rs hread =>
      cases h
      by_contra hnone
      unfold Writable at hnone
      rw [not_or, not_not, not_not] at hnone
      rw [hnone.1, hnone.2] at hread
      exact hne (eq_nil_of_readBuilds hread)
    · cases h

theorem isRemark_of_heading? {keyword : List Char} (h : heading? keyword line = some rest) (hline : '\n' ∉ line) :
    IsRemark (String.ofList rest) := by
  obtain ⟨htrim, hwithin⟩ := heading?_body h
  constructor
  · rw [String.toList_ofList, htrim]
  · rw [String.toList_ofList]
    exact fun hmem => hline (hwithin.subset hmem)

theorem writable_of_read (h : read line = .ok said) (hline : '\n' ∉ line) : said.Writable := by
  unfold read at h
  split at h
  · next rest hlayout =>
    exact writable_of_readLayout h fun hmem => hline ((heading?_body hlayout).2.subset hmem)
  · split at h
    · exact writable_of_readBuildLine h
    · split at h
      · next rest hcomment =>
        cases h
        exact isRemark_of_heading? hcomment hline
      · obtain ⟨f, hf, rfl⟩ := map_eq_ok.mp h
        exact ⟨Field.separable_of_read hf hline, Field.newline_not_mem_canonicalText_of_read hf hline⟩

end VersionLine

theorem Column.writable_of_read {line : List Char} {c : Column} (h : read line = .ok c) (hline : '\n' ∉ line) :
    c.Writable :=
  ⟨separable_of_read h hline, newline_not_mem_text_of_read h hline⟩

end TableLayout
