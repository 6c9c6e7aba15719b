import Std.Data.String.ToInt
import TableLayout.Proofs.Appending
import TableLayout.Proofs.Artifact.Lines

/-!
# The artifacts determine what was compiled

Every line of an artifact can be read back: the line of a member as its type, name and flags, a row as its
parts, the call of the constructor as its arguments. Two tables of one name with the same three texts have
therefore the same members, reflection record and load rows.
-/

namespace TableLayout

open Text

/-! ## Words of the generated code -/

theorem StorageKind.tag_injective : Function.Injective tag := by
  intro k k' h
  cases k <;> cases k' <;> first | rfl | exact absurd h (by decide)

theorem boolText_injective : Function.Injective boolText := by
  intro b b' h
  cases b <;> cases b' <;> first | rfl | exact absurd h (by decide)

theorem ScalarType.text_injective : Function.Injective text := by
  intro e e' h
  cases e with
  | int w s => cases e' with
    | int w' s' => cases w <;> cases s <;> cases w' <;> cases s' <;> first | rfl | exact absurd h (by decide)
    | _ => cases w <;> cases s <;> exact absurd h (by decide)
  | _ => cases e' with
    | int w' s' => cases w' <;> cases s' <;> exact absurd h (by decide)
    | _ => first | rfl | exact absurd h (by decide)

theorem MemberType.text_injective : Function.Injective text := by
  intro ⟨e, l⟩ ⟨e', l'⟩ h
  rw [mk.injEq]
  by_cases hl : l = 0
  · by_cases hl' : l' = 0
    · simp only [text, hl, hl', if_true] at h
      exact ⟨ScalarType.text_injective h, hl.trans hl'.symm⟩
    · have hscalar := text_of_scalar (t := ⟨e, l⟩) hl (e'.text ++ ", " ++ l'.toNat.repr ++ ">")
      rw [h, text_of_array hl'] at hscalar
      simp [String.append_assoc] at hscalar
  · by_cases hl' : l' = 0
    · have hscalar := text_of_scalar (t := ⟨e', l'⟩) hl' (e.text ++ ", " ++ l.toNat.repr ++ ">")
      rw [← h, text_of_array hl] at hscalar
      simp [String.append_assoc] at hscalar
    · rw [text_of_array hl, text_of_array hl', String.append_left_inj] at h
      have hlist : e.text.toList ++ ',' :: (" " ++ l.toNat.repr).toList =
          e'.text.toList ++ ',' :: (" " ++ l'.toNat.repr).toList := by
        simpa [← String.toList_inj] using h
      -- the text of an element holds no comma
      obtain ⟨helement, hlength⟩ :=
        append_cons_inj e.not_mem_text.2.2 e'.not_mem_text.2.2 hlist
      have hdigits := (String.append_right_inj " ").mp (String.toList_injective hlength)
      exact ⟨ScalarType.text_injective (String.toList_injective helement),
        UInt32.toNat_inj.mp (Nat.repr_injective hdigits)⟩

theorem MemberType.trim_text (t : MemberType) : trim t.text.toList = t.text.toList := by
  by_cases hl : t.length = 0
  · have helement : trim t.element.text.toList = t.element.text.toList := by
      cases t.element with
      | int width signed => cases width <;> cases signed <;> decide +kernel
      | float => decide +kernel
      | charPointer => decide +kernel
      | localizedString => decide +kernel
      | plainString => decide +kernel
    simpa [text, hl] using helement
  · have hparts : t.text.toList =
        "std::array<".toList ++ (t.element.text ++ ", " ++ t.length.toNat.repr).toList ++ ">".toList := by
      rw [text_of_array hl]
      simp
    rw [hparts]
    exact trim_append_append (by decide +kernel) (by decide +kernel) (by decide) (by decide)

/-! ## Lines of members -/

theorem spaces_blank (n : Nat) : ∀ c ∈ (spaces n).toList, isBlank c = true := by
  intro c hc
  rw [spaces, String.toList_ofList] at hc
  rw [List.eq_of_mem_replicate hc]
  decide

theorem Member.trim_comment (m : Member) : trim m.comment.toList = m.comment.toList := by
  unfold Member.comment Field.flagComment
  cases m.field.isId <;> cases m.field.isRelation <;> cases m.field.isNonInline <;> decide +kernel

theorem trim_marked {s : List Char} (hs : trim s = s) (hne : s ≠ []) : trim ("// ".toList ++ s) = "// ".toList ++ s :=
  trim_append_append (s := "//".toList) (m := [' ']) (by decide +kernel) (trimEnd_of_trim_eq hs) (by decide) hne

theorem trim_commentText (style : StructStyle) (room : Nat) {comment : String}
    (h : trim comment.toList = comment.toList) :
    trim (trimEnd (spaces room ++ style.commentText comment).toList) =
      if comment = "" then [] else "// ".toList ++ comment.toList := by
  rw [trim_trimEnd, String.toList_append, trim_blank_append (spaces_blank room)]
  unfold StructStyle.commentText
  by_cases hc : comment = ""
  · simp [hc, trim, trimStart, trimEnd]
  · have hmarked := trim_marked h (by simpa using hc)
    rw [if_neg hc, if_neg hc]
    cases style with
    | plain =>
      show trim (" // " ++ comment).toList = _
      rw [← hmarked, String.toList_append]
      exact trim_cons_blank (by decide) _
    | padded =>
      show trim ("// " ++ comment).toList = _
      rw [← hmarked, String.toList_append]

theorem comment_of_commentText {style : StructStyle} {room room' : Nat} {m m' : Member}
    (h : trimEnd (spaces room ++ style.commentText m.comment).toList =
      trimEnd (spaces room' ++ style.commentText m'.comment).toList) : m.comment = m'.comment := by
  have htrim := congrArg trim h
  rw [trim_commentText style room m.trim_comment,
    trim_commentText style room' m'.trim_comment] at htrim
  by_cases hc : m.comment = ""
  · by_cases hc' : m'.comment = ""
    · rw [hc, hc']
    · simp [hc, hc'] at htrim
  · by_cases hc' : m'.comment = ""
    · simp [hc, hc'] at htrim
    · simpa [hc, hc', String.toList_inj] using htrim

/-- A name without white space and semicolon is set off from the type and from the comment. -/
def Member.IsSetOff (m : Member) : Prop := ∀ c ∈ m.name.toList, isBlank c = false ∧ c ≠ ';'

instance (m : Member) : Decidable m.IsSetOff :=
  decidable_of_iff (m.name.toList.all fun c => !isBlank c && c != ';') (by simp [Member.IsSetOff])

theorem memberLine_inj {style : StructStyle} {w w' : Widths} {m m' : Member} (h : m.IsSetOff) (h' : m'.IsSetOff)
    (hline : memberLine style w m = memberLine style w' m') :
    m.name = m'.name ∧ m.type = m'.type ∧ m.comment = m'.comment := by
  let front (w : Widths) (m : Member) := indent 1 ++ m.type.text ++ spaces (w.type - m.type.text.length)
  have hfront : ∀ (w : Widths) {m : Member}, m.IsSetOff →
      ';' ∉ (front w m).toList ++ ' ' :: m.name.toList := by
    intro w m h
    have hname : ';' ∉ m.name.toList := fun hmem => (h _ hmem).2 rfl
    simp [front, indent, spaces, hname, m.type.not_mem_text]
  have hblank : ∀ {m : Member}, m.IsSetOff → ' ' ∉ m.name.toList := by
    intro m h hmem
    exact absurd (h _ hmem).1 (by decide)
  have htrim : ∀ (w : Widths) (m : Member), trim (front w m).toList = m.type.text.toList := by
    intro w m
    have hindent : ∀ c ∈ (indent 1).toList, isBlank c = true := spaces_blank _
    rw [String.toList_append, trim_append_blank (spaces_blank _), String.toList_append,
      trim_blank_append hindent, m.type.trim_text]
  rw [memberLine_eq, memberLine_eq] at hline
  have hlist : ((front w m).toList ++ ' ' :: m.name.toList) ++ ';' ::
        trimEnd (spaces (w.name - (m.name ++ ";").length) ++ style.commentText m.comment).toList =
      ((front w' m').toList ++ ' ' :: m'.name.toList) ++ ';' ::
        trimEnd (spaces (w'.name - (m'.name ++ ";").length) ++ style.commentText m'.comment).toList := by
    simpa [front] using congrArg String.toList hline
  obtain ⟨hdeclared, hrest⟩ := append_cons_inj (hfront w h) (hfront w' h') hlist
  obtain ⟨hleft, hname⟩ := append_cons_inj_last (hblank h) (hblank h') hdeclared
  have htext : m.type.text.toList = m'.type.text.toList := by
    rw [← htrim w m, ← htrim w' m', hleft]
  exact ⟨String.toList_injective hname, MemberType.text_injective (String.toList_injective htext),
    comment_of_commentText hrest⟩

/-! ## Rows -/

theorem MetaRow.text_injective : Function.Injective text := by
  intro r r' h
  -- cut at the first two commas
  have hkind : ∀ r : MetaRow, ',' ∉ (indent 3 ++ "\x7b " ++ r.kind.tag).toList := by
    intro r
    cases r.kind <;> simp [indent, spaces, StorageKind.tag]
  have hlength : ∀ r : MetaRow, ',' ∉ (" " ++ r.length.toNat.repr).toList := by
    intro r
    rw [String.toList_append, List.mem_append, not_or]
    exact ⟨by decide, not_mem_repr (by decide)⟩
  have hlist : (indent 3 ++ "\x7b " ++ r.kind.tag).toList ++ ',' ::
        ((" " ++ r.length.toNat.repr).toList ++ ',' :: (" " ++ boolText r.signed ++ " \x7d,").toList) =
      (indent 3 ++ "\x7b " ++ r'.kind.tag).toList ++ ',' ::
        ((" " ++ r'.length.toNat.repr).toList ++ ',' :: (" " ++ boolText r'.signed ++ " \x7d,").toList) := by
    simpa [text] using congrArg String.toList h
  obtain ⟨hk, hrest⟩ := append_cons_inj (hkind r) (hkind r') hlist
  obtain ⟨hl, hs⟩ := append_cons_inj (hlength r) (hlength r') hrest
  rw [String.toList_inj] at hk hl hs
  have kind : r.kind = r'.kind := StorageKind.tag_injective ((String.append_right_inj _).mp hk)
  have length : r.length = r'.length :=
    UInt32.toNat_inj.mp (Nat.repr_injective ((String.append_right_inj _).mp hl))
  have signed : r.signed = r'.signed :=
    boolText_injective ((String.append_right_inj _).mp ((String.append_left_inj _).mp hs))
  cases r
  cases r'
  simp_all

theorem LoadRow.text_injective : Function.Injective text := by
  intro r r' h
  have hsigned : ∀ r : LoadRow, ',' ∉ (indent 2 ++ "\x7b " ++ boolText r.signed).toList := by
    intro r
    cases r.signed <;> simp [indent, spaces, boolText]
  have hkind : ∀ r : LoadRow, ',' ∉ (" " ++ r.kind.tag).toList := by
    intro r
    cases r.kind <;> decide
  have hlist : (indent 2 ++ "\x7b " ++ boolText r.signed).toList ++ ',' ::
        ((" " ++ r.kind.tag).toList ++ ',' :: (" \"" ++ r.name ++ "\" \x7d,").toList) =
      (indent 2 ++ "\x7b " ++ boolText r'.signed).toList ++ ',' ::
        ((" " ++ r'.kind.tag).toList ++ ',' :: (" \"" ++ r'.name ++ "\" \x7d,").toList) := by
    simpa [text] using congrArg String.toList h
  obtain ⟨hs, hrest⟩ := append_cons_inj (hsigned r) (hsigned r') hlist
  obtain ⟨hk, hn⟩ := append_cons_inj (hkind r) (hkind r') hrest
  rw [String.toList_inj] at hs hk hn
  have signed : r.signed = r'.signed := boolText_injective ((String.append_right_inj _).mp hs)
  have kind : r.kind = r'.kind := StorageKind.tag_injective ((String.append_right_inj _).mp hk)
  have name : r.name = r'.name := (String.append_right_inj _).mp ((String.append_left_inj _).mp hn)
  cases r
  cases r'
  simp_all

/-! ## Declarations -/

theorem unlines_inj {ls ls' : List String} (h : ∀ l ∈ ls, '\n' ∉ l.toList) (h' : ∀ l ∈ ls', '\n' ∉ l.toList)
    (heq : unlines ls = unlines ls') : ls = ls' := by
  have hlines := lines_unlines h
  rw [heq, lines_unlines h'] at hlines
  exact List.map_injective_iff.mpr (fun _ _ => String.toList_injective) hlines.symm

theorem middle_inj {α : Type} {front front' middle middle' back back' : List α}
    (hfront : front.length = front'.length) (hback : back.length = back'.length)
    (h : front ++ middle ++ back = front' ++ middle' ++ back') :
    front = front' ∧ middle = middle' ∧ back = back' := by
  obtain ⟨hleft, rfl⟩ := List.append_inj' h hback
  obtain ⟨rfl, rfl⟩ := List.append_inj hleft hfront
  exact ⟨rfl, rfl, rfl⟩

theorem map_eq_of_map_eq {α β γ : Type} {f g : α → β} {k : α → γ} {l l' : List α}
    (hk : ∀ a ∈ l, ∀ a' ∈ l', f a = g a' → k a = k a') (h : l.map f = l'.map g) : l.map k = l'.map k := by
  induction l generalizing l' with
  | nil =>
    rw [List.map_nil, eq_comm, List.map_eq_nil_iff] at h
    rw [h]
  | cons a l ih =>
    obtain ⟨a', rest, rfl, ha, hrest⟩ := List.map_eq_cons_iff.mp h.symm
    rw [List.map_cons, List.map_cons, hk a List.mem_cons_self a' List.mem_cons_self ha.symm]
    congr 1
    apply ih _ hrest.symm
    intro b hb b' hb'
    exact hk b (List.mem_cons_of_mem _ hb) b' (List.mem_cons_of_mem _ hb')

namespace Compilation
variable {c c' : Compilation}

theorem structureLines_inj {style : StructStyle} (h : ∀ m ∈ c.members, m.IsSetOff)
    (h' : ∀ m ∈ c'.members, m.IsSetOff) (hlines : c.structureLines style = c'.structureLines style) :
    c.members.map (fun m => (m.name, m.type, m.comment)) = c'.members.map fun m => (m.name, m.type, m.comment) := by
  unfold Compilation.structureLines at hlines
  obtain ⟨-, hmembers, -⟩ := middle_inj (by simp only [List.length_cons]) (by simp only [List.length_cons]) hlines
  refine map_eq_of_map_eq ?_ hmembers
  intro m hm m' hm' hline
  obtain ⟨hname, htype, hcomment⟩ := memberLine_inj (h m hm) (h' m' hm') hline
  rw [hname, htype, hcomment]

theorem comma_not_mem_metaArguments (h : c.Legible) (r : Reflection) :
    ∀ item ∈ (c.metaArguments r).map String.toList, ',' ∉ item := by
  intro item hitem
  have hhash := h.hash_item
  simp only [metaArguments, List.map_cons, List.map_nil, List.mem_cons, List.not_mem_nil, or_false] at hitem
  rcases hitem with rfl | rfl | rfl | rfl | rfl | rfl | rfl
  · exact not_mem_repr (by decide)
  · exact not_mem_toString (by decide) (by decide)
  · exact not_mem_repr (by decide)
  · exact not_mem_repr (by decide)
  · simp [hhash]
  · decide
  · exact not_mem_toString (by decide) (by decide)

theorem metadataLines_inj (h : c.Legible) (h' : c'.Legible) {r r' : Reflection}
    (hlines : c.metadataLines r = c'.metadataLines r') :
    c.fileId = c'.fileId ∧ c.layoutHash = c'.layoutHash ∧ r = r' := by
  unfold Compilation.metadataLines at hlines
  obtain ⟨-, hrows, hback⟩ := middle_inj (by simp only [List.length_cons]) (by simp only [List.length_cons]) hlines
  have hcall : ", ".intercalate (c.metaArguments r) = ", ".intercalate (c'.metaArguments r') := by
    simpa using hback
  have harguments : (c.metaArguments r).map String.toList = (c'.metaArguments r').map String.toList := by
    have hlist := congrArg String.toList hcall
    rw [String.toList_intercalate, String.toList_intercalate] at hlist
    exact intercalate_comma_blank_inj (List.cons_ne_nil _ _) (List.cons_ne_nil _ _)
      (comma_not_mem_metaArguments h r) (comma_not_mem_metaArguments h' r') hlist
  have hitems : c.metaArguments r = c'.metaArguments r' :=
    List.map_injective_iff.mpr (fun _ _ => String.toList_injective) harguments
  unfold metaArguments at hitems
  simp only [List.cons.injEq, and_true, true_and] at hitems
  obtain ⟨hfile, hindex, hcount, hstored, hhash, hparent⟩ := hitems
  have index : r.indexField = r'.indexField := Int32.toInt_inj.mp (Int.repr_injective hindex)
  have parent : r.parentIndexField = r'.parentIndexField := Int32.toInt_inj.mp (Int.repr_injective hparent)
  have count : r.fieldCount = r'.fieldCount := UInt32.toNat_inj.mp (Nat.repr_injective hcount)
  have stored : r.fileFieldCount = r'.fileFieldCount := UInt32.toNat_inj.mp (Nat.repr_injective hstored)
  have rows : r.rows = r'.rows := List.map_injective_iff.mpr MetaRow.text_injective hrows
  refine ⟨UInt32.toNat_inj.mp (Nat.repr_injective hfile), (String.append_right_inj "0x").mp hhash, ?_⟩
  cases r
  cases r'
  simp_all

theorem loadInfoLines_inj {rows rows' : List LoadRow} (hlines : c.loadInfoLines rows = c'.loadInfoLines rows') :
    rows = rows' := by
  unfold Compilation.loadInfoLines at hlines
  obtain ⟨-, hrows, -⟩ := middle_inj (by simp only [List.length_cons]) (by simp only [List.length_cons]) hlines
  exact List.map_injective_iff.mpr LoadRow.text_injective hrows

end Compilation

/-- Two runs that give the same three texts have compiled the same members under the same hash and file. -/
theorem eq_of_render_eq {document document' : ByteArray} {table : String} {build build' : Option Build}
    {fileId fileId' : UInt32} {localize localize' : Bool} {c c' : Compilation} {style : StructStyle}
    {a : Artifacts} (htable : '\n' ∉ table.toList)
    (hc : compileDocument document table build fileId localize = .ok c)
    (hc' : compileDocument document' table build' fileId' localize' = .ok c')
    (hnames : ∀ m ∈ c.members, m.IsSetOff) (hnames' : ∀ m ∈ c'.members, m.IsSetOff)
    (ha : c.render style = .ok a) (ha' : c'.render style = .ok a) :
    c.fileId = c'.fileId ∧ c.layoutHash = c'.layoutHash ∧
      c.members.map (fun m => (m.name, m.type, m.comment)) = c'.members.map (fun m => (m.name, m.type, m.comment)) ∧
      ∃ r rows, c.reflect = .ok r ∧ c'.reflect = .ok r ∧ c.loadRows = .ok rows ∧ c'.loadRows = .ok rows := by
  have hlegible := legible_of_compileDocument hc htable
  have hlegible' := legible_of_compileDocument hc' htable
  obtain ⟨r, rows, hr, hrows, rfl⟩ := render_eq_ok.mp ha
  obtain ⟨r', rows', hr', hrows', htexts⟩ := render_eq_ok.mp ha'
  obtain ⟨hstructure, hmetadata, hloadInfo⟩ := Artifacts.mk.inj htexts
  have hmembers := Compilation.structureLines_inj hnames hnames' <|
    unlines_inj (hlegible.structureLines style).one_line (hlegible'.structureLines style).one_line hstructure
  obtain ⟨hfile, hhash, rfl⟩ := Compilation.metadataLines_inj hlegible hlegible' <|
    unlines_inj (hlegible.metadataLines r).one_line (hlegible'.metadataLines r').one_line hmetadata
  obtain rfl := Compilation.loadInfoLines_inj <|
    unlines_inj (hlegible.loadInfoLines hrows).one_line (hlegible'.loadInfoLines hrows').one_line hloadInfo
  exact ⟨hfile, hhash, hmembers, r, rows, hr, hr', hrows, hrows'⟩

def itemsNotedText : String := "COLUMNS\nint ID // key\n\nLAYOUT A1\nBUILD 1.0.0.1\n$id$ID<32>\n"

def itemsNoted : Definitions where
  columns := [⟨"ID", .int, none, true, some "key"⟩]
  versions := items.versions

def itemsNotedCompiled : Compilation where
  table := "Item"
  layoutHash := "A1"
  fileId := 7
  members :=
    [⟨"ID", ⟨.int .w32 true, 0⟩, ⟨"ID", 32, true, 0, true, false, false, none⟩,
      ⟨"ID", .int, none, true, some "key"⟩⟩]
  digest := none

theorem eq_of_render_eq_items : itemsText ≠ itemsNotedText ∧ '\n' ∉ "Item".toList ∧
    ∃ c c' a, compileDocument itemsText.toUTF8 "Item" (some ⟨1, 0, 0, 1⟩) 7 true = .ok c ∧
      compileDocument itemsNotedText.toUTF8 "Item" none 7 false = .ok c' ∧
      (∀ m ∈ c.members, m.IsSetOff) ∧ (∀ m ∈ c'.members, m.IsSetOff) ∧
      c.render .padded = .ok a ∧ c'.render .padded = .ok a ∧ c.members ≠ c'.members ∧
      c.members.map (fun m => (m.name, m.type, m.comment)) = c'.members.map (fun m => (m.name, m.type, m.comment)) := by
  have hnoted : Definitions.read itemsNotedText.toList = .ok itemsNoted := by decide +kernel
  have hcompile' : itemsNoted.compile "Item" none 7 false = .ok itemsNotedCompiled := by decide +kernel
  have htexts : itemsNotedCompiled.render .padded = itemsCompiled.render .padded := by decide +kernel
  have hc' := compileDocument_toUTF8 hnoted "Item" none 7 false
  rw [hcompile'] at hc'
  obtain ⟨a, ha⟩ := render_items
  have ha' := htexts.trans ha
  have hnames : ∀ m ∈ itemsCompiled.members, m.IsSetOff := by decide +kernel
  have hnames' : ∀ m ∈ itemsNotedCompiled.members, m.IsSetOff := by decide +kernel
  have hline : '\n' ∉ "Item".toList := by decide
  refine ⟨by decide, hline, _, _, a, compileDocument_items, hc', hnames, hnames', ha, ha', by decide +kernel, ?_⟩
  exact (eq_of_render_eq hline compileDocument_items hc' hnames hnames' ha ha').2.2.1

end TableLayout
