import TableLayout.Proofs.Document.ReadLine

/-!
# The grammar of field lines

A field line is read exactly when its body can be written as annotations, a name, a size and a length, in this order,
of which all but the name may be left out. There is at most one such way, and the field is what its parts say.
-/

namespace TableLayout

open Text

/-! ## The body of a line -/

/-- The trimmed texts before and after the first pair of slashes. -/
inductive Commented (line : List Char) : List Char → Option (List Char) → Prop
  | bare (h : ¬['/', '/'] <:+: line) : Commented line (trim line) none
  | remark {before after : List Char} (hline : line = before ++ '/' :: '/' :: after)
      (hfirst : ¬['/', '/'] <:+: before ++ ['/']) : Commented line (trim before) (some (trim after))

theorem commented_splitComment (line : List Char) :
    Commented line (splitComment line).1 (splitComment line).2 := by
  unfold splitComment
  cases hcut : cutAtPair '/' line with
  | none => exact .bare (cutAtPair_eq_none_iff.mp hcut)
  | some p =>
    obtain ⟨before, after⟩ := p
    obtain ⟨hline, hnone⟩ := cutAtPair_eq_some.mp hcut
    exact .remark hline (cutAtPair_eq_none_iff.mp hnone)

theorem Commented.eq_splitComment {line body : List Char} {comment : Option (List Char)}
    (h : Commented line body comment) : splitComment line = (body, comment) := by
  unfold splitComment
  cases h with
  | bare h => rw [cutAtPair_eq_none_iff.mpr h]
  | remark hline hfirst => rw [hline, cutAtPair_append (cutAtPair_eq_none_iff.mpr hfirst)]

/-! ## Parts between delimiters -/

def enclosed (opening closing : Char) : Option (List Char) → List Char
  | none => []
  | some part => opening :: part ++ [closing]

/-- A text starts with a part, if it starts with its opening delimiter; the first closing one ends the part. -/
structure Takes (opening closing : Char) (s : List Char) (part : Option (List Char)) (rest : List Char) : Prop where
  text : s = enclosed opening closing part ++ rest
  opened : part.isSome = true ↔ s.head? = some opening
  closed : ∀ a ∈ part, closing ∉ a

section
variable {opening closing : Char} {s rest : List Char} {part : Option (List Char)}

theorem takes_cons_iff : Takes opening closing (opening :: s) part rest ↔
    ∃ a, part = some a ∧ cutAt closing s = some (a, rest) := by
  constructor
  · intro h
    cases part with
    | none => exact absurd (h.opened.mpr rfl) (by simp)
    | some a =>
      refine ⟨a, rfl, cutAt_eq_some.mpr ⟨?_, h.closed a rfl⟩⟩
      simpa [enclosed] using h.text
  · intro h
    obtain ⟨a, rfl, hcut⟩ := h
    obtain ⟨rfl, hclosed⟩ := cutAt_eq_some.mp hcut
    exact ⟨by simp [enclosed], by simp, by simpa using hclosed⟩

theorem takes_iff_of_head_ne (h : s.head? ≠ some opening) :
    Takes opening closing s part rest ↔ part = none ∧ rest = s := by
  constructor
  · intro htakes
    cases part with
    | none => exact ⟨rfl, htakes.text.symm⟩
    | some a => exact absurd (htakes.opened.mp rfl) h
  · intro hnone
    obtain ⟨rfl, rfl⟩ := hnone
    exact ⟨rfl, by simp [h], by simp⟩

theorem Takes.unique {part' : Option (List Char)} {rest' : List Char} (h : Takes opening closing s part rest)
    (h' : Takes opening closing s part' rest') : part = part' ∧ rest = rest' := by
  by_cases hs : s.head? = some opening
  · obtain ⟨t, rfl⟩ := List.head?_eq_some_iff.mp hs
    obtain ⟨a, rfl, hcut⟩ := takes_cons_iff.mp h
    obtain ⟨b, rfl, hcut'⟩ := takes_cons_iff.mp h'
    rw [hcut] at hcut'
    cases hcut'
    exact ⟨rfl, rfl⟩
  · rw [takes_iff_of_head_ne hs] at h h'
    exact ⟨h.1.trans h'.1.symm, h.2.trans h'.2.symm⟩

end

/-! ## The parts of a field line -/

/-- What stands between the delimiters of a field line, and the name that has none. -/
structure FieldParts where
  annotations : Option (List Char)
  name : List Char
  size : Option (List Char)
  length : Option (List Char)

namespace FieldParts

def brackets (p : FieldParts) : List Char := enclosed '<' '>' p.size ++ enclosed '[' ']' p.length

def text (p : FieldParts) : List Char := enclosed '$' '$' p.annotations ++ (p.name ++ p.brackets)

/-- The parts make up the body, and each is what may stand in its place. -/
structure Spell (p : FieldParts) (body : List Char) : Prop where
  text_eq : body = p.text
  /-- A body that starts with a dollar sign starts with annotations. -/
  annotated : p.annotations.isSome = true ↔ body.head? = some '$'
  annotations_closed : ∀ list ∈ p.annotations, '$' ∉ list
  name_open : ∀ c ∈ p.name, c ≠ '<' ∧ c ≠ '['
  name_filled : ∃ c ∈ p.name, isBlank c = false
  size_closed : ∀ size ∈ p.size, '>' ∉ size
  size_numeral : ∀ size ∈ p.size, ∃ digits n, (size = digits ∨ size = 'u' :: digits) ∧ IsNumeral digits n
  length_closed : ∀ length ∈ p.length, ']' ∉ length
  length_numeral : ∀ length ∈ p.length, ∃ n, IsNumeral length n

def Annotated (p : FieldParts) (keyword : String) : Prop :=
  ∃ list ∈ p.annotations, keyword.toList ∈ (list.splitOn ',').map trim

structure Says (p : FieldParts) (f : Field) : Prop where
  name : f.name.toList = trim p.name
  size_left_out : p.size = none → f.size = 0
  size : ∀ size ∈ p.size, ∃ digits, (size = digits ∨ size = 'u' :: digits) ∧ IsNumeral digits f.size
  isSigned : f.isSigned = true ↔ ∃ size ∈ p.size, size.head? ≠ some 'u'
  length_left_out : p.length = none → f.length = 0
  length : ∀ length ∈ p.length, IsNumeral length f.length
  isId : f.isId = true ↔ p.Annotated "id"
  isRelation : f.isRelation = true ↔ p.Annotated "relation"
  isNonInline : f.isNonInline = true ↔ p.Annotated "noninline"

end FieldParts

/-! ## Reading part by part -/

theorem head?_ne_of_forall {s : List Char} {c : Char} (h : ∀ t, s = c :: t → False) : s.head? ≠ some c := by
  intro hs
  obtain ⟨t, rfl⟩ := List.head?_eq_some_iff.mp hs
  exact h t rfl

theorem takeAnnotations_eq_ok_iff {body rest : List Char} {list : Option (List Char)} :
    takeAnnotations body = .ok (list, rest) ↔ Takes '$' '$' body list rest := by
  unfold takeAnnotations
  split
  · next s =>
    rw [takes_cons_iff]
    cases cutAt '$' s <;> simp [Prod.ext_iff, eq_comm]
  · next h =>
    rw [takes_iff_of_head_ne (head?_ne_of_forall h)]
    simp [eq_comm]

theorem readSize_eq_some_iff {size : List Char} {signed : Bool} {n : UInt32} :
    readSize size = some (signed, n) ↔
      (∃ digits, (size = digits ∨ size = 'u' :: digits) ∧ IsNumeral digits n) ∧
        (signed = true ↔ size.head? ≠ some 'u') := by
  have hdigits : ∀ {digits : List Char}, IsNumeral digits n → digits.head? ≠ some 'u' := fun h hu =>
    h.not_mem (by decide) (by decide) (List.mem_of_head? hu)
  unfold readSize
  split
  · next digits =>
    have hnumeral : (∃ d, ('u' :: digits = d ∨ 'u' :: digits = 'u' :: d) ∧ IsNumeral d n) ↔ IsNumeral digits n := by
      constructor
      · intro h
        obtain ⟨d, hd, hn⟩ := h
        rcases hd with rfl | hd
        · exact absurd rfl (hdigits hn)
        · rwa [(List.cons.inj hd).2]
      · intro h
        exact ⟨digits, .inr rfl, h⟩
    rw [hnumeral, ← readWord_eq_some_iff]
    cases readWord digits <;> simp [and_comm]
  · next h =>
    have hhead : size.head? ≠ some 'u' := head?_ne_of_forall h
    have hnumeral : (∃ d, (size = d ∨ size = 'u' :: d) ∧ IsNumeral d n) ↔ IsNumeral size n := by
      constructor
      · intro h
        obtain ⟨d, hd, hn⟩ := h
        rcases hd with rfl | rfl
        · exact hn
        · exact absurd rfl hhead
      · intro h
        exact ⟨size, .inl rfl, h⟩
    rw [hnumeral, ← readWord_eq_some_iff]
    cases readWord size <;> simp [hhead, and_comm]

theorem takeSize_eq_ok_iff {body s rest : List Char} {signed : Bool} {n : UInt32} :
    takeSize body s = .ok ((signed, n), rest) ↔
      ∃ size, Takes '<' '>' s size rest ∧ size.elim (some (false, 0)) readSize = some (signed, n) := by
  unfold takeSize
  split
  · next s =>
    simp only [takes_cons_iff]
    cases cutAt '>' s with
    | none => simp
    | some p => cases hsize : readSize p.1 <;> simp [Prod.ext_iff, hsize, eq_comm, and_comm]
  · next h =>
    simp only [takes_iff_of_head_ne (head?_ne_of_forall h)]
    simp [eq_comm, and_comm]

theorem takeLength_eq_ok_iff {body s rest : List Char} {n : UInt32} :
    takeLength body s = .ok (n, rest) ↔
      ∃ length, Takes '[' ']' s length rest ∧ length.elim (some 0) readWord = some n := by
  unfold takeLength
  split
  · next s =>
    simp only [takes_cons_iff]
    cases cutAt ']' s with
    | none => simp
    | some p => cases hlength : readWord p.1 <;> simp [Prod.ext_iff, hlength, eq_comm, and_comm]
  · next h =>
    simp only [takes_iff_of_head_ne (head?_ne_of_forall h)]
    simp [eq_comm, and_comm]

/-! ## Parts and fields -/

namespace FieldParts
variable {p : FieldParts} {body : List Char} {f : Field}

theorem contains_annotationItems_iff (p : FieldParts) (keyword : String) :
    (annotationItems p.annotations).contains keyword.toList = true ↔ p.Annotated keyword := by
  unfold annotationItems Annotated
  cases p.annotations <;> simp

theorem elim_readSize_iff {size : Option (List Char)} {signed : Bool} {n : UInt32} :
    size.elim (some (false, 0)) readSize = some (signed, n) ↔ (size = none → n = 0) ∧
      (∀ part ∈ size, ∃ digits, (part = digits ∨ part = 'u' :: digits) ∧ IsNumeral digits n) ∧
      (signed = true ↔ ∃ part ∈ size, part.head? ≠ some 'u') := by
  cases size with
  | none => simp [and_comm, eq_comm]
  | some part => simp [readSize_eq_some_iff]

theorem elim_readWord_iff {length : Option (List Char)} {n : UInt32} :
    length.elim (some 0) readWord = some n ↔ (length = none → n = 0) ∧ ∀ part ∈ length, IsNumeral part n := by
  cases length with
  | none => simp [eq_comm]
  | some part => simp [readWord_eq_some_iff]

theorem isOpening_eq_false_iff {c : Char} : isOpening c = false ↔ c ≠ '<' ∧ c ≠ '[' := by
  simp [isOpening]

theorem head?_brackets (p : FieldParts) : ∀ c ∈ p.brackets.head?, isOpening c = true := by
  unfold brackets
  cases p.size <;> cases p.length <;> simp [enclosed, isOpening]

namespace Spell
variable (h : p.Spell body)
include h

theorem takes_annotations : Takes '$' '$' body p.annotations (p.name ++ p.brackets) :=
  ⟨h.text_eq, h.annotated, h.annotations_closed⟩

theorem takeWhile_name : (p.name ++ p.brackets).takeWhile (!isOpening ·) = p.name := by
  refine takeWhile_append_stop (fun c hc => ?_) fun c hc => by simp [p.head?_brackets c hc]
  simp [isOpening_eq_false_iff.mpr (h.name_open c hc)]

theorem dropWhile_name : (p.name ++ p.brackets).dropWhile (!isOpening ·) = p.brackets := by
  refine dropWhile_append_stop (fun c hc => ?_) fun c hc => by simp [p.head?_brackets c hc]
  simp [isOpening_eq_false_iff.mpr (h.name_open c hc)]

theorem takes_size : Takes '<' '>' p.brackets p.size (enclosed '[' ']' p.length) := by
  refine ⟨rfl, ?_, h.size_closed⟩
  unfold brackets
  cases p.size <;> cases p.length <;> simp [enclosed]

theorem takes_length : Takes '[' ']' (enclosed '[' ']' p.length) p.length [] := by
  refine ⟨by simp, ?_, h.length_closed⟩
  cases p.length <;> simp [enclosed]

/-- A body has one decomposition at most. -/
theorem unique {q : FieldParts} (hq : q.Spell body) : p = q := by
  obtain ⟨hannotations, hrest⟩ := h.takes_annotations.unique hq.takes_annotations
  have hname : p.name = q.name := by rw [← h.takeWhile_name, hrest, hq.takeWhile_name]
  have hbrackets : p.brackets = q.brackets := by rw [← h.dropWhile_name, hrest, hq.dropWhile_name]
  have hsize := h.takes_size
  rw [hbrackets] at hsize
  obtain ⟨hsize, htail⟩ := hsize.unique hq.takes_size
  have hlength := h.takes_length
  rw [htail] at hlength
  obtain ⟨hlength, -⟩ := hlength.unique hq.takes_length
  cases p
  cases q
  simp_all

theorem exists_says (comment : Option String) : ∃ f : Field, p.Says f ∧ f.comment = comment := by
  have hsize : ∃ signed n, p.size.elim (some (false, 0)) readSize = some (signed, n) := by
    cases hs : p.size with
    | none => exact ⟨false, 0, rfl⟩
    | some size =>
      obtain ⟨digits, n, hdigits, hn⟩ := h.size_numeral size hs
      exact ⟨_, n, readSize_eq_some_iff.mpr ⟨⟨digits, hdigits, hn⟩, decide_eq_true_iff⟩⟩
  have hlength : ∃ n, p.length.elim (some 0) readWord = some n := by
    cases hl : p.length with
    | none => exact ⟨0, rfl⟩
    | some length =>
      obtain ⟨n, hn⟩ := h.length_numeral length hl
      exact ⟨n, readWord_eq_some_iff.mpr hn⟩
  obtain ⟨signed, n, hsize⟩ := hsize
  obtain ⟨k, hlength⟩ := hlength
  obtain ⟨hsizeNone, hsizeSome, hsigned⟩ := elim_readSize_iff.mp hsize
  obtain ⟨hlengthNone, hlengthSome⟩ := elim_readWord_iff.mp hlength
  refine ⟨⟨String.ofList (trim p.name), n, signed, k, (annotationItems p.annotations).contains "id".toList,
    (annotationItems p.annotations).contains "relation".toList,
    (annotationItems p.annotations).contains "noninline".toList, comment⟩, ?_, rfl⟩
  exact {
    name := String.toList_ofList
    size_left_out := hsizeNone
    size := hsizeSome
    isSigned := hsigned
    length_left_out := hlengthNone
    length := hlengthSome
    isId := p.contains_annotationItems_iff "id"
    isRelation := p.contains_annotationItems_iff "relation"
    isNonInline := p.contains_annotationItems_iff "noninline" }

theorem read {line : List Char} (hbody : body = (splitComment line).1) (hf : p.Says f)
    (hcomment : f.comment = (splitComment line).2.map String.ofList) : Field.read line = .ok f := by
  have hname : f.name = String.ofList (trim p.name) := by rw [← hf.name, String.ofList_toList]
  have hfilled : trim p.name ≠ [] := by
    intro hnil
    obtain ⟨c, hc, hblank⟩ := h.name_filled
    rw [trim_eq_nil_iff.mp hnil c hc] at hblank
    cases hblank
  have hflag : ∀ {flag : Bool} {keyword : String}, (flag = true ↔ p.Annotated keyword) →
      flag = (annotationItems p.annotations).contains keyword.toList := by
    intro flag keyword hkeyword
    rw [Bool.eq_iff_iff, hkeyword, contains_annotationItems_iff]
  have hsize := elim_readSize_iff.mpr ⟨hf.size_left_out, hf.size, hf.isSigned⟩
  have hlength := elim_readWord_iff.mpr ⟨hf.length_left_out, hf.length⟩
  refine Field.read_eq_ok_iff.mpr ⟨p.annotations, p.name ++ p.brackets, enclosed '[' ']' p.length, [], ?_⟩
  rw [h.takeWhile_name, h.dropWhile_name, ← hbody]
  exact ⟨takeAnnotations_eq_ok_iff.mpr h.takes_annotations, hfilled, takeSize_eq_ok_iff.mpr ⟨_, h.takes_size, hsize⟩,
    takeLength_eq_ok_iff.mpr ⟨_, h.takes_length, hlength⟩, rfl, hname, hflag hf.isId, hflag hf.isRelation,
    hflag hf.isNonInline, hcomment⟩

end Spell

theorem eq_nil_of_trim_eq {front back : List Char} (h : trim (front ++ back) = front ++ back)
    (hback : trim back = []) : back = [] := by
  by_contra hne
  obtain ⟨c, hc⟩ := Option.isSome_iff_exists.mp (List.getLast?_isSome.mpr hne)
  have hlast : (front ++ back).getLast? = some c := by rw [List.getLast?_append_of_ne_nil _ hne, hc]
  have hfilled := trimEnd_eq_self_iff.mp (trimEnd_of_trim_eq h) c hlast
  rw [trim_eq_nil_iff.mp hback c (List.mem_of_getLast? hc)] at hfilled
  cases hfilled

theorem exists_spell_of_read {line : List Char} (h : Field.read line = .ok f) :
    ∃ p : FieldParts, p.Spell (splitComment line).1 ∧ p.Says f ∧
      f.comment = (splitComment line).2.map String.ofList := by
  obtain ⟨list, rest, tail, back, hlist, hname, hsize, hlength, hback, e₁, e₂, e₃, e₄, hcomment⟩ :=
    Field.read_eq_ok_iff.mp h
  have hlist := takeAnnotations_eq_ok_iff.mp hlist
  obtain ⟨size, hsize, hreadSize⟩ := takeSize_eq_ok_iff.mp hsize
  obtain ⟨length, hlength, hreadLength⟩ := takeLength_eq_ok_iff.mp hlength
  obtain ⟨hsizeNone, hsizeSome, hsigned⟩ := elim_readSize_iff.mp hreadSize
  obtain ⟨hlengthNone, hlengthSome⟩ := elim_readWord_iff.mp hreadLength
  let p : FieldParts := ⟨list, rest.takeWhile (!isOpening ·), size, length⟩
  have hrest : rest = p.name ++ (p.brackets ++ back) := by
    rw [← List.takeWhile_append_dropWhile (p := (!isOpening ·)) (l := rest), hsize.text, hlength.text]
    simp [p, brackets]
  have htext : (splitComment line).1 = p.text ++ back := by
    rw [hlist.text, hrest]
    simp [p, text]
  have hnil : back = [] := by
    have htrim := (splitComment_body line).1
    rw [htext] at htrim
    exact eq_nil_of_trim_eq htrim hback
  rw [hnil, List.append_nil] at htext
  refine ⟨p, ?_, ?_, hcomment⟩
  · exact {
      text_eq := htext
      annotated := hlist.opened
      annotations_closed := hlist.closed
      name_open := fun c hc => isOpening_eq_false_iff.mp (by simpa using List.mem_takeWhile_imp hc)
      name_filled := by
        by_contra hblank
        exact hname (trim_eq_nil_iff.mpr fun c hc => by simpa using fun e => hblank ⟨c, hc, e⟩)
      size_closed := hsize.closed
      size_numeral := fun part hpart => by
        obtain ⟨digits, hdigits, hn⟩ := hsizeSome part hpart
        exact ⟨digits, _, hdigits, hn⟩
      length_closed := hlength.closed
      length_numeral := fun part hpart => ⟨_, hlengthSome part hpart⟩ }
  · exact {
      name := by rw [e₁, String.toList_ofList]
      size_left_out := hsizeNone
      size := hsizeSome
      isSigned := hsigned
      length_left_out := hlengthNone
      length := hlengthSome
      isId := by rw [e₂]; exact p.contains_annotationItems_iff "id"
      isRelation := by rw [e₃]; exact p.contains_annotationItems_iff "relation"
      isNonInline := by rw [e₄]; exact p.contains_annotationItems_iff "noninline" }

end FieldParts

/-- A line has one body and one comment or none. It is read exactly when the body can be taken apart into the parts of
a field, which can be done in one way at most, and the field is the one that the parts and the comment stand for. -/
theorem Field.read_grammar (line : List Char) : ∃ body comment,
    (∀ body' comment', Commented line body' comment' ↔ body' = body ∧ comment' = comment) ∧
    (∀ p q : FieldParts, p.Spell body → q.Spell body → p = q) ∧
    ((∃ f, read line = .ok f) ↔ ∃ p : FieldParts, p.Spell body) ∧
    ∀ f, read line = .ok f ↔ ∃ p : FieldParts, p.Spell body ∧ p.Says f ∧ f.comment = comment.map String.ofList := by
  refine ⟨(splitComment line).1, (splitComment line).2, ?_, fun p q hp hq => hp.unique hq, ?_, fun f => ?_⟩
  · intro body' comment'
    constructor
    · intro h
      rw [h.eq_splitComment]
      exact ⟨rfl, rfl⟩
    · rintro ⟨rfl, rfl⟩
      exact commented_splitComment line
  · constructor
    · intro h
      obtain ⟨f, hf⟩ := h
      obtain ⟨p, hp, -, -⟩ := FieldParts.exists_spell_of_read hf
      exact ⟨p, hp⟩
    · intro h
      obtain ⟨p, hp⟩ := h
      obtain ⟨f, hf, hcomment⟩ := hp.exists_says ((splitComment line).2.map String.ofList)
      exact ⟨f, hp.read rfl hf hcomment⟩
  · constructor
    · exact FieldParts.exists_spell_of_read
    · intro h
      obtain ⟨p, hp, hf, hcomment⟩ := h
      exact hp.read rfl hf hcomment

def zoneLine : List Char := "$ id ,hidden$ Zone ID <u+16>[003] // of // the map".toList

def zoneBody : List Char := "$ id ,hidden$ Zone ID <u+16>[003]".toList

def zoneParts : FieldParts := ⟨" id ,hidden".toList, " Zone ID ".toList, "u+16".toList, "003".toList⟩

def zone : Field := ⟨"Zone ID", 16, false, 3, true, false, false, some "of // the map"⟩

theorem spell_zone : zoneParts.Spell zoneBody where
  text_eq := by decide
  annotated := by decide
  annotations_closed := by decide
  name_open := by
    have all : zoneParts.name.all (fun c => c != '<' && c != '[') = true := by decide
    simpa using List.all_eq_true.mp all
  name_filled := by decide
  size_closed := by decide
  size_numeral := by
    rintro size ⟨⟩
    have all : "16".toList.all Char.isDigit = true := by decide
    exact ⟨"+16".toList, 16, .inr rfl, "16".toList, .inr rfl, by decide, List.all_eq_true.mp all, rfl⟩
  length_closed := by decide
  length_numeral := by
    rintro length ⟨⟩
    have all : "003".toList.all Char.isDigit = true := by decide
    exact ⟨3, "003".toList, .inl rfl, by decide, List.all_eq_true.mp all, rfl⟩

/-- The parts of the line are the only ones, and a length cannot stand before a size. -/
theorem Field.read_grammar_zone : zoneParts.Spell zoneBody ∧ (∀ p : FieldParts, p.Spell zoneBody → p = zoneParts) ∧
    read zoneLine = .ok zone ∧ zoneParts.Says zone ∧ ¬∃ p : FieldParts, p.Spell "Zone[3]<16>".toList := by
  have hread : read zoneLine = .ok zone := by decide +kernel
  have hcommented : Commented zoneLine zoneBody (some "of // the map".toList) := by
    have h := commented_splitComment zoneLine
    rwa [show splitComment zoneLine = (zoneBody, some "of // the map".toList) by decide +kernel] at h
  obtain ⟨body, comment, hbody, hunique, -, hfield⟩ := read_grammar zoneLine
  obtain ⟨rfl, rfl⟩ := (hbody _ _).mp hcommented
  refine ⟨spell_zone, fun p hp => hunique p zoneParts hp spell_zone, hread, ?_, ?_⟩
  · obtain ⟨p, hp, hsays, -⟩ := (hfield zone).mp hread
    rwa [hunique p zoneParts hp spell_zone] at hsays
  · obtain ⟨body, comment, hbody, -, hiff, -⟩ := read_grammar "Zone[3]<16>".toList
    have hbare : Commented "Zone[3]<16>".toList "Zone[3]<16>".toList none := by
      have h := commented_splitComment "Zone[3]<16>".toList
      rwa [show splitComment "Zone[3]<16>".toList = ("Zone[3]<16>".toList, none) by decide +kernel] at h
    obtain ⟨rfl, rfl⟩ := (hbody _ _).mp hbare
    rw [← hiff]
    intro h
    obtain ⟨f, hf⟩ := h
    have hfault : read "Zone[3]<16>".toList = .error (.trailing "<16>") := by decide +kernel
    rw [hfault] at hf
    cases hf

end TableLayout
