import Mathlib.Data.List.Nodup
import TableLayout.Proofs.Appending
import TableLayout.Proofs.Artifact.Lines

/-!
# Members that can stand together

Names are spelled without their underscores, and the values of an array are numbered. Both can make one name of two:
the members of a table can stand in one structure, and its load rows can be told apart, exactly when no two fields
have the same words once these are run together, and no array counts up to the name of another field.
-/

namespace TableLayout

open Text

/-- The members of a structure have names, no two of them the same one, and no two load rows name the same value. -/
structure Coexist (names rowNames : List String) : Prop where
  filled : ∀ name ∈ names, name ≠ ""
  members : names.Nodup
  rows : rowNames.Nodup

namespace Member

def words (m : Member) : List (List Char) := (unsuffixed m.column.type m.field.name.toList).splitOn '_'

def spelling (m : Member) : String := String.ofList (runTogether m.words)

/-- An array is long enough to number one of its values as another member, or as the first value of one. -/
def Reaches (m m' : Member) : Prop :=
  ∃ k, 0 < k ∧ m'.spelling = m.spelling ++ k.repr ∧
    (if m'.field.length = 0 then k else 10 * k + 1) ≤ m.field.length.toNat

structure Apart (m m' : Member) : Prop where
  spelled : m.spelling ≠ m'.spelling
  ahead : ¬m.Reaches m'
  behind : ¬m'.Reaches m

theorem name_of_yields {d : Definitions} {localize : Bool} {f : Field} {m : Member} (h : d.Yields localize f m) :
    m.name = m.spelling := by
  obtain ⟨column, -, hmember⟩ := h
  obtain ⟨type, -, rfl⟩ := member_eq_ok.mp hmember
  show memberName column.type f.name = _
  rw [memberName, camelCase_eq_runTogether]
  rfl

theorem spelling_ne_empty {m : Member} : m.spelling ≠ "" ↔ ∃ word ∈ m.words, word ≠ [] := by
  rw [spelling, ne_eq, String.ofList_eq_empty_iff, runTogether_eq_nil]
  simp only [not_forall, exists_prop, ne_eq]

/-! ## Values -/

section
variable {m m' : Member}

theorem valueNames_of_single (h : m.field.length = 0) : m.valueNames = [m.name] := by
  simp [valueNames, Field.isArray, h]

theorem mem_valueNames_of_array (h : m.field.length ≠ 0) {value : String} :
    value ∈ m.valueNames ↔ ∃ k, 0 < k ∧ k ≤ m.field.length.toNat ∧ value = m.name ++ k.repr := by
  have harray : m.field.isArray = true := by simpa [Field.isArray] using h
  unfold valueNames
  rw [if_pos harray, List.mem_map]
  constructor
  · rintro ⟨i, hi, rfl⟩
    exact ⟨i + 1, Nat.succ_pos i, List.mem_range.mp hi, rfl⟩
  · rintro ⟨k, hk, hlength, rfl⟩
    refine ⟨k - 1, List.mem_range.mpr (by omega), ?_⟩
    rw [Nat.sub_add_cancel hk]

theorem nodup_valueNames (m : Member) : m.valueNames.Nodup := by
  by_cases hlength : m.field.length = 0
  · rw [valueNames_of_single hlength]
    exact List.nodup_singleton _
  · have harray : m.field.isArray = true := by simpa [Field.isArray] using hlength
    unfold valueNames
    rw [if_pos harray]
    apply List.Nodup.map _ List.nodup_range
    intro i j h
    exact Nat.succ_inj.mp (Nat.repr_injective ((String.append_right_inj m.name).mp h))

theorem Reaches.length_ne (h : m.Reaches m') : m.field.length ≠ 0 := by
  obtain ⟨k, hk, -, hlength⟩ := h
  intro hzero
  rw [hzero] at hlength
  have hnone : (0 : UInt32).toNat = 0 := rfl
  split at hlength <;> omega

variable (hname : m.name = m.spelling) (hname' : m'.name = m'.spelling)
include hname hname'

theorem Reaches.common (h : m.Reaches m') : ∃ value ∈ m.valueNames, value ∈ m'.valueNames := by
  have harray := h.length_ne
  obtain ⟨k, hk, hspelling, hlength⟩ := h
  rw [← hname, ← hname'] at hspelling
  by_cases hsingle : m'.field.length = 0
  · rw [if_pos hsingle] at hlength
    refine ⟨m'.name, (mem_valueNames_of_array harray).mpr ⟨k, hk, hlength, hspelling⟩, ?_⟩
    rw [valueNames_of_single hsingle]
    exact List.mem_singleton_self _
  · rw [if_neg hsingle] at hlength
    refine ⟨m'.name ++ Nat.repr 1, (mem_valueNames_of_array harray).mpr ⟨10 * k + 1, Nat.succ_pos _, hlength, ?_⟩,
      (mem_valueNames_of_array hsingle).mpr ⟨1, Nat.one_pos, ?_, rfl⟩⟩
    · rw [hspelling, String.append_assoc, repr_append_one hk]
    · have hpos : m'.field.length.toNat ≠ 0 := fun e => hsingle (UInt32.toNat_inj.mp e)
      omega

/-- Two members with names of their own share a value only where one of them reaches the other. -/
theorem disjoint_valueNames_iff (hne : m.name ≠ m'.name) :
    List.Disjoint m.valueNames m'.valueNames ↔ ¬m.Reaches m' ∧ ¬m'.Reaches m := by
  constructor
  · intro h
    constructor
    · intro hreaches
      obtain ⟨value, hvalue, hvalue'⟩ := hreaches.common hname hname'
      exact h hvalue hvalue'
    · intro hreaches
      obtain ⟨value, hvalue', hvalue⟩ := hreaches.common hname' hname
      exact h hvalue hvalue'
  · intro ⟨hahead, hbehind⟩ value hvalue hvalue'
    by_cases hsingle : m.field.length = 0
    · rw [valueNames_of_single hsingle, List.mem_singleton] at hvalue
      by_cases hsingle' : m'.field.length = 0
      · rw [valueNames_of_single hsingle', List.mem_singleton] at hvalue'
        exact hne (hvalue.symm.trans hvalue')
      · obtain ⟨k, hk, hlength, heq⟩ := (mem_valueNames_of_array hsingle').mp hvalue'
        refine hbehind ⟨k, hk, ?_, by rwa [if_pos hsingle]⟩
        rw [← hname, ← hname', ← hvalue, heq]
    · obtain ⟨n, hn, hlength, heq⟩ := (mem_valueNames_of_array hsingle).mp hvalue
      by_cases hsingle' : m'.field.length = 0
      · rw [valueNames_of_single hsingle', List.mem_singleton] at hvalue'
        refine hahead ⟨n, hn, ?_, by rwa [if_pos hsingle']⟩
        rw [← hname, ← hname', ← hvalue', heq]
      · obtain ⟨n', hn', hlength', heq'⟩ := (mem_valueNames_of_array hsingle').mp hvalue'
        rcases append_repr_cases hn hn' (heq.symm.trans heq') with e | ⟨k, hk, e, hkn⟩ | ⟨k, hk, e, hkn⟩
        · exact hne e
        · refine hahead ⟨k, hk, by rw [← hname, ← hname', e], ?_⟩
          rw [if_neg hsingle']
          omega
        · refine hbehind ⟨k, hk, by rw [← hname, ← hname', e], ?_⟩
          rw [if_neg hsingle]
          omega

theorem apart_iff : m.Apart m' ↔ m.name ≠ m'.name ∧ List.Disjoint m.valueNames m'.valueNames := by
  constructor
  · intro h
    have hne : m.name ≠ m'.name := by
      rw [hname, hname']
      exact h.spelled
    exact ⟨hne, (disjoint_valueNames_iff hname hname' hne).mpr ⟨h.ahead, h.behind⟩⟩
  · intro ⟨hne, hdisjoint⟩
    obtain ⟨hahead, hbehind⟩ := (disjoint_valueNames_iff hname hname' hne).mp hdisjoint
    rw [hname, hname'] at hne
    exact ⟨hne, hahead, hbehind⟩

end

end Member

/-! ## Tables -/

theorem names_of_loadRows {c : Compilation} {rows : List LoadRow} (h : c.loadRows = .ok rows) :
    rows.map (·.name) = c.members.flatMap Member.valueNames := by
  obtain ⟨blocks, hblocks, rfl⟩ := compilation_loadRows_eq_ok.mp h
  clear h
  generalize c.members = members at hblocks ⊢
  induction hblocks with
  | nil => rfl
  | cons hblock _ ih =>
    obtain ⟨kind, -, rfl⟩ := loadRows_eq_ok.mp hblock
    rw [List.flatten_cons, List.map_append, ih, List.flatMap_cons, List.map_map]
    congr 1
    exact List.map_id _

/-- Members with the names of their fields can stand together exactly when these are apart. -/
theorem coexist_iff {members : List Member} (h : ∀ m ∈ members, m.name = m.spelling) :
    Coexist (members.map (·.name)) (members.flatMap Member.valueNames) ↔
      (∀ m ∈ members, ∃ word ∈ m.words, word ≠ []) ∧ members.Pairwise Member.Apart := by
  have hfilled : (∀ name ∈ members.map (·.name), name ≠ "") ↔ ∀ m ∈ members, ∃ word ∈ m.words, word ≠ [] := by
    rw [List.forall_mem_map]
    refine forall₂_congr fun m hm => ?_
    rw [h m hm]
    exact Member.spelling_ne_empty
  have hapart : members.Pairwise Member.Apart ↔
      (members.map (·.name)).Nodup ∧ (members.flatMap Member.valueNames).Nodup := by
    have hpairs : members.Pairwise Member.Apart ↔ members.Pairwise fun m m' =>
        m.name ≠ m'.name ∧ List.Disjoint m.valueNames m'.valueNames :=
      List.Pairwise.iff_of_mem fun hm hm' => Member.apart_iff (h _ hm) (h _ hm')
    have hvalues : (members.flatMap Member.valueNames).Nodup ↔
        members.Pairwise fun m m' => List.Disjoint m.valueNames m'.valueNames := by
      rw [List.nodup_flatMap]
      exact and_iff_right fun m _ => m.nodup_valueNames
    rw [hpairs, List.pairwise_and_iff, hvalues, List.Nodup, List.pairwise_map]
  rw [hapart, ← hfilled]
  constructor
  · intro h
    exact ⟨h.filled, h.members, h.rows⟩
  · intro ⟨hnames, hmembers, hrows⟩
    exact ⟨hnames, hmembers, hrows⟩

/-- A name of one word that does not end like the name of a value. -/
structure Field.Unnumbered (f : Field) : Prop where
  one_word : '_' ∉ f.name.toList
  ending : ∀ c ∈ f.name.toList.getLast?, c.isDigit = false

theorem Member.spelling_of_unnumbered {m : Member} (h : m.field.Unnumbered) : m.spelling = m.field.name := by
  rw [spelling, words, unsuffixed_of_one_word _ h.one_word, runTogether_of_one_word h.one_word, String.ofList_toList]

theorem Member.not_reaches_of_unnumbered {m m' : Member} (h : m'.field.Unnumbered) : ¬m.Reaches m' := by
  rintro ⟨k, -, hspelling, -⟩
  rw [spelling_of_unnumbered h] at hspelling
  have hname : m'.field.name.toList = m.spelling.toList ++ Nat.toDigits 10 k := by
    rw [hspelling, String.toList_append, Nat.toList_repr]
  have hne : Nat.toDigits 10 k ≠ [] := Nat.toDigits_ne_nil
  have hending := h.ending ((Nat.toDigits 10 k).getLast hne) (by
    rw [hname, List.getLast?_append_of_ne_nil _ hne]
    exact List.getLast?_eq_some_getLast hne)
  rw [isDigit_of_mem_toDigits (List.getLast_mem hne)] at hending
  cases hending

/-- The members of a table and their values have names of their own exactly when the words of the fields do, run
together, and no array numbers its values as another field. That names differ is enough where they are unnumbered. -/
theorem members_coexist {document : ByteArray} {table : String} {build : Option Build} {fileId : UInt32}
    {localize : Bool} {c : Compilation} (hc : compileDocument document table build fileId localize = .ok c)
    {style : StructStyle} {a : Artifacts} (ha : c.render style = .ok a) :
    ∃ d version rows, readDocument document table = .ok d ∧ d.selected? build = some version ∧
      c.members.map (·.field) = version.fields ∧ c.loadRows = .ok rows ∧
      a.record = c.structureText style ∧ a.loadInfo = unlines (c.loadInfoLines rows) ∧
      (Coexist (c.members.map (·.name)) (rows.map (·.name)) ↔
        (∀ m ∈ c.members, ∃ word ∈ m.words, word ≠ []) ∧ c.members.Pairwise Member.Apart) ∧
      ((version.fields.map (·.name)).Nodup → (∀ f ∈ version.fields, f.Unnumbered) →
        Coexist (c.members.map (·.name)) (rows.map (·.name))) := by
  obtain ⟨d, version, hread, hselected, hwritable, -, -, hyields⟩ := version_of_compileDocument hc
  obtain ⟨r, rows, -, hrows, rfl⟩ := render_eq_ok.mp ha
  have hnames : ∀ m ∈ c.members, m.name = m.spelling := by
    intro m hm
    obtain ⟨f, -, hm⟩ := forall₂_mem_right hyields hm
    exact Member.name_of_yields hm
  have hfields : c.members.map (·.field) = version.fields := Definitions.fields_of_yields hyields
  have hiff := coexist_iff hnames
  rw [← names_of_loadRows hrows] at hiff
  refine ⟨d, version, rows, hread, hselected, hfields, hrows, rfl, rfl, hiff, ?_⟩
  intro hnodup hplain
  have hmember : ∀ m ∈ c.members, m.field ∈ version.fields := by
    intro m hm
    rw [← hfields]
    exact List.mem_map_of_mem hm
  have hspelled : ∀ m ∈ c.members, m.spelling = m.field.name := fun m hm =>
    Member.spelling_of_unnumbered (hplain _ (hmember m hm))
  apply hiff.mpr
  constructor
  · intro m hm
    rw [← Member.spelling_ne_empty, hspelled m hm]
    exact (hwritable.fields _ (hmember m hm)).separable.name_ne
  · rw [← hfields, List.map_map, List.Nodup, List.pairwise_map] at hnodup
    apply hnodup.imp_of_mem
    intro m m' hm hm' hne
    refine ⟨?_, Member.not_reaches_of_unnumbered (hplain _ (hmember m' hm')),
      Member.not_reaches_of_unnumbered (hplain _ (hmember m hm))⟩
    rw [hspelled m hm, hspelled m' hm']
    exact hne

/-! ## Close names -/

/-- For each name a column and a field of the given length. -/
def wordFields (fields : List (String × UInt32)) (h : (fields.map (·.1)).Nodup) : Definitions where
  columns := fields.map fun (name, _) => ⟨name, .int, none, true, none⟩
  versions :=
    [⟨["A1"], [], [], [], fields.map fun (name, length) => ⟨name, 32, true, length, false, false, false, none⟩⟩]
  distinct := by rwa [List.map_map]

def wordMembers (members : List (String × String × UInt32)) : Compilation where
  table := "Item"
  layoutHash := "A1"
  fileId := 0
  members := members.map fun (member, name, length) =>
    ⟨member, ⟨.int .w32 true, length⟩, ⟨name, 32, true, length, false, false, false, none⟩,
      ⟨name, .int, none, true, none⟩⟩
  digest := none

theorem compileDocument_words {text : String} {fields : List (String × UInt32)} {h : (fields.map (·.1)).Nodup}
    (members : List (String × String × UInt32)) (hread : Definitions.read text.toList = .ok (wordFields fields h))
    (hcompile : (wordFields fields h).compile "Item" none 0 true = .ok (wordMembers members))
    (hrender : ((wordMembers members).render .padded).isOk = true) : ∃ c a rows,
    compileDocument text.toUTF8 "Item" none 0 true = .ok c ∧ c.render .padded = .ok a ∧ c.loadRows = .ok rows ∧
      c.members = (wordMembers members).members ∧
      rows.map (·.name) = (wordMembers members).members.flatMap Member.valueNames := by
  have hc := compileDocument_toUTF8 hread "Item" none 0 true
  rw [hcompile] at hc
  obtain ⟨a, ha⟩ := exists_eq_ok hrender
  obtain ⟨r, rows, -, hrows, -⟩ := render_eq_ok.mp ha
  exact ⟨_, a, rows, hc, (render_digest _ _ _).trans ha, hrows, rfl, names_of_loadRows hrows⟩

def flagsText : String := "COLUMNS\nint Flags\nint Flags_3\n\nLAYOUT A1\nFlags<32>[2]\nFlags_3<32>\n"

theorem members_coexist_flags : ∃ c a rows, compileDocument flagsText.toUTF8 "Item" none 0 true = .ok c ∧
    c.render .padded = .ok a ∧ c.loadRows = .ok rows ∧ c.members.map (·.name) = ["Flags", "Flags3"] ∧
    rows.map (·.name) = ["Flags1", "Flags2", "Flags3"] ∧ c.members.Pairwise Member.Apart := by
  have hread : Definitions.read flagsText.toList = .ok (wordFields [("Flags", 2), ("Flags_3", 0)] (by decide)) := by
    decide +kernel
  obtain ⟨c, a, rows, hc, ha, hrows, hmembers, hvalues⟩ :=
    compileDocument_words [("Flags", "Flags", 2), ("Flags3", "Flags_3", 0)] hread
      (by decide +kernel) (by decide +kernel)
  have hnames : c.members.map (·.name) = ["Flags", "Flags3"] := by rw [hmembers]; rfl
  have hrowNames : rows.map (·.name) = ["Flags1", "Flags2", "Flags3"] := by rw [hvalues]; decide
  obtain ⟨d, version, rows', -, -, -, hrows', -, -, hiff, -⟩ := members_coexist hc ha
  obtain rfl := Except.ok.inj (hrows.symm.trans hrows')
  refine ⟨c, a, rows, hc, ha, hrows, hnames, hrowNames, (hiff.mp ?_).2⟩
  rw [hnames, hrowNames]
  exact ⟨by decide, by decide, by decide⟩

/-- Names of which one has no word, two have the same words run together, and one is that of a value of an array. -/
def mergedText : String :=
  "COLUMNS\nint _\nint Field_1_11\nint Field_11_1\nint Flags\nint Flags1\n\nLAYOUT A1\n" ++
    "_<32>\nField_1_11<32>\nField_11_1<32>\nFlags<32>[2]\nFlags1<32>\n"

theorem merged_names_clash : ∃ d version c a rows, readDocument mergedText.toUTF8 "Item" = .ok d ∧
    d.selected? none = some version ∧ (version.fields.map (·.name)).Nodup ∧
    compileDocument mergedText.toUTF8 "Item" none 0 true = .ok c ∧ c.render .padded = .ok a ∧
    c.loadRows = .ok rows ∧ "" ∈ c.members.map (·.name) ∧ ¬(c.members.map (·.name)).Nodup ∧
    ¬(rows.map (·.name)).Nodup := by
  have hread : Definitions.read mergedText.toList =
      .ok (wordFields [("_", 0), ("Field_1_11", 0), ("Field_11_1", 0), ("Flags", 2), ("Flags1", 0)] (by decide)) := by
    decide +kernel
  obtain ⟨c, a, rows, hc, ha, hrows, hmembers, hvalues⟩ :=
    compileDocument_words [("", "_", 0), ("Field111", "Field_1_11", 0), ("Field111", "Field_11_1", 0),
      ("Flags", "Flags", 2), ("Flags1", "Flags1", 0)] hread (by decide +kernel) (by decide +kernel)
  refine ⟨_, _, c, a, rows, readDocument_toUTF8 hread "Item", rfl, by decide, hc, ha, hrows, ?_, ?_, ?_⟩
  · rw [hmembers]
    decide
  · rw [hmembers]
    decide
  · rw [hvalues]
    decide

end TableLayout
