import TableLayout.Document.Line
import TableLayout.Document.Printer
import TableLayout.Proofs.Text.Cutting
import TableLayout.Proofs.Text.Numeral

/-!
# Written columns and fields are read back

The text of a column or of a field is read as that column or field, for all names that the separators of the
line do not cut. White space at the end of a line says nothing.
-/

namespace TableLayout

open Text

/-! ## Comments -/

theorem splitComment_trimEnd (line : List Char) : splitComment (trimEnd line) = splitComment line := by
  obtain ⟨blanks, hline, hblank⟩ := exists_trimEnd_append line
  have hslash : '/' ∉ blanks := fun h => absurd (hblank _ h) (by decide)
  have hcut := cutAtPair_append_right hslash (trimEnd line)
  rw [← hline] at hcut
  unfold splitComment
  rw [hcut]
  cases cutAtPair '/' (trimEnd line) with
  | none =>
    have : trim line = trim (trimEnd line) := by
      rw [hline, trim_append_blank hblank, ← hline]
    simp [this]
  | some p => simp [trim_append_blank hblank]

theorem splitComment_commentText {body : List Char} (htrim : trim body = body)
    (hslash : cutAtPair '/' body = none) {comment : Option String}
    (hcomment : ∀ text ∈ comment, trim text.toList = text.toList) :
    splitComment (body ++ (commentText comment).toList) = (body, comment.map String.toList) := by
  unfold splitComment
  cases comment with
  | none => simp [commentText, hslash, htrim]
  | some text =>
    have hcut : cutAtPair '/' (body ++ [' '] ++ ['/']) = none := by
      rw [List.append_assoc, cutAtPair_append_eq_none_iff]
      exact ⟨hslash, by decide, fun h => absurd h.2 (by decide)⟩
    have e : body ++ (commentText (some text)).toList = body ++ [' '] ++ '/' :: '/' :: ' ' :: text.toList := by
      simp [commentText]
    rw [e, cutAtPair_append hcut]
    have hbody : trim (body ++ [' ']) = body := by
      rw [trim_append_blank (by simp; decide), htrim]
    simp [hbody, trim_cons_blank (show isBlank ' ' = true by decide), hcomment text rfl]

/-! ## Columns -/

namespace Column

def tokenText (c : Column) : String := c.type.token ++ (c.foreign.map ForeignKey.text).getD ""

def nameText (c : Column) : String := c.name ++ if c.verified then "" else "?"

theorem toList_text (c : Column) : c.text.toList =
    (c.tokenText.toList ++ [' '] ++ c.nameText.toList) ++ (commentText c.comment).toList := by
  simp [text, tokenText, nameText]

theorem read_trimEnd (line : List Char) : read (trimEnd line) = read line := by
  unfold read
  rw [splitComment_trimEnd]

theorem readType_tokenText {c : Column} (htype : .ofToken c.type.token = c.type)
    (htoken : '<' ∉ c.type.token.toList)
    (hkey : ∀ key ∈ c.foreign, cutAtPair ':' (key.table.toList ++ [':']) = none) :
    readType c.tokenText.toList = .ok (c.type, c.foreign) := by
  unfold readType
  cases hf : c.foreign with
  | none =>
    have e : c.tokenText = c.type.token := by simp [tokenText, hf]
    rw [e, cutAt_eq_none htoken]
    simp [htype]
  | some key =>
    have e : c.tokenText.toList = c.type.token.toList ++
        '<' :: ((key.table.toList ++ ':' :: ':' :: key.column.toList) ++ ['>']) := by
      simp [tokenText, hf, ForeignKey.text]
    rw [e, cutAt_append htoken]
    simp only [readForeignKey, dropEnd?_append, cutAtPair_append (hkey key hf)]
    simp [bind, Except.bind, pure, Except.pure, htype]

theorem readColumnName_nameText {c : Column} (htrim : trim c.nameText.toList = c.nameText.toList)
    (hmark : c.verified = true → c.name.toList.getLast? ≠ some '?') :
    readColumnName c.nameText.toList = (c.name.toList, c.verified) := by
  unfold readColumnName
  rw [htrim]
  cases hv : c.verified with
  | true =>
    have e : c.nameText = c.name := by simp [nameText, hv]
    rw [e, dropEnd?_eq_none (hmark hv)]
  | false =>
    have e : c.nameText.toList = c.name.toList ++ ['?'] := by simp [nameText, hv]
    rw [e, dropEnd?_append]

/-- What the separators of a column line ask of its parts. -/
structure Separable (c : Column) : Prop where
  type_token : .ofToken c.type.token = c.type
  token_start : trimStart c.tokenText.toList = c.tokenText.toList
  token_ne : c.tokenText ≠ ""
  token_word : ' ' ∉ c.tokenText.toList
  type_word : '<' ∉ c.type.token.toList
  key_table : ∀ key ∈ c.foreign, cutAtPair ':' (key.table.toList ++ [':']) = none
  name_trimmed : trim c.nameText.toList = c.nameText.toList
  name_ne : c.name ≠ ""
  name_mark : c.verified = true → c.name.toList.getLast? ≠ some '?'
  no_comment : cutAtPair '/' (c.tokenText.toList ++ [' '] ++ c.nameText.toList) = none
  comment_trimmed : ∀ text ∈ c.comment, trim text.toList = text.toList

theorem Separable.read_text {c : Column} (h : c.Separable) : read c.text.toList = .ok c := by
  have htoken : c.tokenText.toList ≠ [] := by simpa using h.token_ne
  have hname : c.nameText.toList ≠ [] := by simp [nameText, h.name_ne]
  have hbody := trim_append_append (m := [' ']) h.token_start (trimEnd_of_trim_eq h.name_trimmed) htoken hname
  unfold read
  rw [toList_text, splitComment_commentText hbody h.no_comment h.comment_trimmed]
  simp only [List.append_assoc, List.singleton_append, cutAt_append h.token_word,
    readType_tokenText h.type_token h.type_word h.key_table,
    readColumnName_nameText h.name_trimmed h.name_mark]
  have hne : c.name.toList.isEmpty = false := by simpa using h.name_ne
  simp [bind, Except.bind, hne, Option.map_map]

end Column

/-! ## Fields -/

namespace Field

def partsText (f : Field) : String := f.name ++ f.sizeText ++ f.lengthText

theorem read_trimEnd (line : List Char) : read (trimEnd line) = read line := by
  unfold read
  rw [splitComment_trimEnd]

theorem readSize_repr (n : UInt32) : readSize n.toNat.repr.toList = some (true, n) := by
  unfold readSize
  split
  · next digits h =>
    have hu : 'u' ∈ n.toNat.repr.toList := by simp only [h, List.mem_cons_self]
    exact absurd hu (not_mem_repr (by decide))
  · rw [readWord_repr]
    rfl

theorem takeSize_sizeText {f : Field} (body : List Char) {rest : List Char} (h : rest.head? ≠ some '<') :
    takeSize body (f.sizeText.toList ++ rest) = .ok ((f.isSigned, f.size), rest) := by
  cases hs : f.isSigned with
  | true =>
    have e : f.sizeText.toList ++ rest = '<' :: (f.size.toNat.repr.toList ++ '>' :: rest) := by
      simp [sizeText, hs]
    have hcut : '>' ∉ f.size.toNat.repr.toList := not_mem_repr (by decide)
    rw [e]
    simp only [takeSize, cutAt_append hcut, readSize_repr]
  | false =>
    by_cases h0 : f.size = 0
    · have e : f.sizeText.toList ++ rest = rest := by simp [sizeText, hs, h0]
      rw [e, h0]
      unfold takeSize
      split
      · exact absurd rfl h
      · rfl
    · have e : f.sizeText.toList ++ rest = '<' :: (('u' :: f.size.toNat.repr.toList) ++ '>' :: rest) := by
        simp [sizeText, hs, h0]
      have hcut : '>' ∉ 'u' :: f.size.toNat.repr.toList :=
        List.not_mem_cons_of_ne_of_not_mem (by decide) (not_mem_repr (by decide))
      rw [e]
      simp only [takeSize, cutAt_append hcut, readSize, readWord_repr, Option.map_some]

theorem takeLength_lengthText {f : Field} (body : List Char) :
    takeLength body f.lengthText.toList = .ok (f.length, []) := by
  by_cases h0 : f.length = 0
  · simp [lengthText, h0, takeLength]
  · have e : f.lengthText.toList = '[' :: (f.length.toNat.repr.toList ++ ']' :: []) := by
      simp [lengthText, h0]
    have hcut : ']' ∉ f.length.toNat.repr.toList := not_mem_repr (by decide)
    rw [e]
    simp only [takeLength, cutAt_append hcut, readWord_repr]

theorem mem_bracketed {opening closing : String} {n : Nat} {c : Char}
    (h : c ∈ (opening ++ n.repr ++ closing).toList) :
    c.isDigit = true ∨ c ∈ opening.toList ++ closing.toList := by
  simp only [String.toList_append, List.mem_append, Nat.toList_repr] at h ⊢
  rcases h with (h | h) | h
  · exact .inr (.inl h)
  · exact .inl (isDigit_of_mem_toDigits h)
  · exact .inr (.inr h)

theorem mem_sizeText {f : Field} {c : Char} (h : c ∈ f.sizeText.toList) :
    c.isDigit = true ∨ c ∈ ['<', 'u', '>'] := by
  unfold sizeText at h
  split at h
  · refine (mem_bracketed h).imp_right fun h => ?_
    have : "<".toList ++ ">".toList ⊆ ['<', 'u', '>'] := by decide
    exact this h
  · split at h
    · cases h
    · exact mem_bracketed h

theorem mem_lengthText {f : Field} {c : Char} (h : c ∈ f.lengthText.toList) :
    c.isDigit = true ∨ c ∈ ['[', ']'] := by
  unfold lengthText at h
  split at h
  · cases h
  · exact mem_bracketed h

theorem isBlank_of_mem_brackets {f : Field} {c : Char} (h : c ∈ f.sizeText.toList ++ f.lengthText.toList) :
    isBlank c = false ∧ c ≠ '/' := by
  have hc : c.isDigit = true ∨ c ∈ ['<', 'u', '>', '[', ']'] := by
    rcases List.mem_append.mp h with h | h
    · exact (mem_sizeText h).imp_right fun h => List.mem_append_left ['[', ']'] h
    · exact (mem_lengthText h).imp_right fun h => List.mem_append_right ['<', 'u', '>'] h
  rcases hc with hd | hb
  · refine ⟨isBlank_of_isDigit hd, ?_⟩
    rintro rfl
    cases hd
  · have all : ['<', 'u', '>', '[', ']'].all (fun c => !isBlank c && c != '/') = true := by decide
    simpa using List.all_eq_true.mp all c hb

theorem isOpening_head {f : Field} {c : Char} (h : c ∈ (f.sizeText.toList ++ f.lengthText.toList).head?) :
    isOpening c = true := by
  have hl : ∀ c ∈ f.lengthText.toList.head?, isOpening c = true := by
    unfold lengthText
    split
    · simp
    · simp [isOpening]
  unfold sizeText at h
  split at h
  · simp only [String.toList_append, List.append_assoc] at h
    cases h
    rfl
  · split at h
    · exact hl c h
    · simp only [String.toList_append, List.append_assoc] at h
      cases h
      rfl

theorem lengthText_head (f : Field) : f.lengthText.toList.head? ≠ some '<' := by
  unfold lengthText
  split <;> simp

theorem contains_annotationItems (f : Field) :
    ∀ items, items = annotationItems (some (",".intercalate f.annotations).toList) →
      items.contains "id".toList = f.isId ∧ items.contains "relation".toList = f.isRelation ∧
        items.contains "noninline".toList = f.isNonInline := by
  rintro items rfl
  unfold annotations
  cases f.isId <;> cases f.isRelation <;> cases f.isNonInline <;> decide

theorem isBlank_of_mem_annotationText {f : Field} {c : Char} (h : c ∈ f.annotationText.toList) :
    isBlank c = false ∧ c ≠ '/' := by
  have all : f.annotationText.toList.all (fun c => !isBlank c && c != '/') = true := by
    unfold annotationText annotations
    cases f.isId <;> cases f.isRelation <;> cases f.isNonInline <;> decide
  simpa using List.all_eq_true.mp all c h

structure Separable (f : Field) : Prop where
  name_trimmed : trim f.name.toList = f.name.toList
  name_ne : f.name ≠ ""
  name_word : ∀ c ∈ f.name.toList, isOpening c = false
  no_comment : cutAtPair '/' f.name.toList = none
  comment_trimmed : ∀ text ∈ f.comment, trim text.toList = text.toList

theorem toList_partsText (f : Field) :
    f.partsText.toList = f.name.toList ++ (f.sizeText.toList ++ f.lengthText.toList) := by
  simp [partsText]

section
variable {f : Field} (h : ∀ c ∈ f.name.toList, isOpening c = false)
include h

theorem takeWhile_partsText : f.partsText.toList.takeWhile (!isOpening ·) = f.name.toList := by
  rw [toList_partsText]
  exact takeWhile_append_stop (fun c hc => by simp [h c hc]) fun c hc => by simp [isOpening_head hc]

theorem dropWhile_partsText : f.partsText.toList.dropWhile (!isOpening ·) =
    f.sizeText.toList ++ f.lengthText.toList := by
  rw [toList_partsText]
  exact dropWhile_append_stop (fun c hc => by simp [h c hc]) fun c hc => by simp [isOpening_head hc]

end

/-- Before the name can stand whatever is taken for the flags of the field. -/
theorem Separable.read_marked {f : Field} (h : f.Separable) {marks : List Char}
    (hmarks : ∀ c ∈ marks, isBlank c = false ∧ c ≠ '/') {list : Option (List Char)}
    (htake : takeAnnotations (marks ++ f.partsText.toList) = .ok (list, f.partsText.toList))
    (hid : (annotationItems list).contains "id".toList = f.isId)
    (hrelation : (annotationItems list).contains "relation".toList = f.isRelation)
    (hnonInline : (annotationItems list).contains "noninline".toList = f.isNonInline) :
    read (marks ++ f.bodyText.toList) = .ok f := by
  have hline : marks ++ f.bodyText.toList =
      marks ++ f.partsText.toList ++ (commentText f.comment).toList := by
    simp [bodyText, partsText]
  have hbrackets : trim (f.sizeText.toList ++ f.lengthText.toList) = f.sizeText.toList ++ f.lengthText.toList :=
    trim_of_no_blank fun c hc => (isBlank_of_mem_brackets hc).1
  have htrim : trim (marks ++ f.partsText.toList) = marks ++ f.partsText.toList := by
    rw [toList_partsText]
    exact trim_append (trim_of_no_blank fun c hc => (hmarks c hc).1) (trim_append h.name_trimmed hbrackets)
  have hslash : cutAtPair '/' (marks ++ f.partsText.toList) = none := by
    have hm : '/' ∉ marks := fun hc => (hmarks _ hc).2 rfl
    have hb : '/' ∉ f.sizeText.toList ++ f.lengthText.toList := fun hc => (isBlank_of_mem_brackets hc).2 rfl
    rw [toList_partsText, cutAtPair_append_eq_none_iff, cutAtPair_append_eq_none_iff]
    refine ⟨cutAtPair_eq_none hm, ⟨h.no_comment, cutAtPair_eq_none hb, ?_⟩, ?_⟩
    · exact fun e => hb (List.mem_of_head? e.2)
    · exact fun e => hm (List.mem_of_getLast? e.1)
  have hne : f.name.toList.isEmpty = false := by simpa using h.name_ne
  unfold read
  rw [hline, splitComment_commentText htrim hslash h.comment_trimmed]
  simp only [htake, bind, Except.bind]
  rw [takeWhile_partsText h.name_word, dropWhile_partsText h.name_word, h.name_trimmed,
    takeSize_sizeText _ (lengthText_head f)]
  simp only [takeLength_lengthText, hne, hid, hrelation, hnonInline]
  simp [trim, trimStart, trimEnd, pure, Except.pure, Option.map_map]

theorem Separable.read_canonicalText {f : Field} (h : f.Separable) : read f.canonicalText.toList = .ok f := by
  have hflags := contains_annotationItems f _ rfl
  have hcut : '$' ∉ (",".intercalate f.annotations).toList := by
    unfold annotations
    cases f.isId <;> cases f.isRelation <;> cases f.isNonInline <;> decide
  have htake : takeAnnotations (f.annotationText.toList ++ f.partsText.toList) =
      .ok (some (",".intercalate f.annotations).toList, f.partsText.toList) := by
    have e : f.annotationText.toList ++ f.partsText.toList =
        '$' :: ((",".intercalate f.annotations).toList ++ '$' :: f.partsText.toList) := by
      simp [annotationText]
    rw [e]
    simp only [takeAnnotations, cutAt_append hcut]
  have := h.read_marked (fun _ => isBlank_of_mem_annotationText) htake hflags.1 hflags.2.1 hflags.2.2
  rwa [← String.toList_append] at this

/-- Without flags the list of annotations is left out, so that the name must not look like one. -/
theorem Separable.read_plainText {f : Field} (h : f.Separable) (hname : f.name.toList.head? ≠ some '$') :
    read f.plainText.toList = .ok f := by
  unfold plainText
  split
  · next hnone =>
    have hparts : f.partsText.toList.head? ≠ some '$' := by
      have : f.name.toList ≠ [] := by simpa using h.name_ne
      simpa [partsText, List.head?_append_of_ne_nil _ this] using hname
    have htake : takeAnnotations f.partsText.toList = .ok (none, f.partsText.toList) := by
      unfold takeAnnotations
      split
      · next rest e =>
        rw [e] at hparts
        exact absurd rfl hparts
      · rfl
    have hflags : f.isId = false ∧ f.isRelation = false ∧ f.isNonInline = false := by
      simp only [annotations, List.isEmpty_iff] at hnone
      cases hi : f.isId <;> cases hr : f.isRelation <;> cases hn : f.isNonInline <;> simp_all
    refine @Separable.read_marked f h [] (by simp) none htake ?_ ?_ ?_
    · rw [hflags.1]
      rfl
    · rw [hflags.2.1]
      rfl
    · rw [hflags.2.2]
      rfl
  · exact h.read_canonicalText

end Field

end TableLayout
