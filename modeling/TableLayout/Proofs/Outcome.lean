import TableLayout.Proofs.Compiled
import TableLayout.Proofs.Storage

/-!
# How compiling ends

A table is refused for its version, for a field without a column, or for a field without a type, in this order:
all columns are looked up before any type is. In each case the first field that gives cause is reported, and
without such a field every field becomes one member.
-/

namespace TableLayout

/-! ## Fields without a type -/

/-- What is wrong with a field whose column gives it no type; plain keys need none. -/
inductive Field.Mistyped (f : Field) (c : Column) : Fault → Prop
  | size (hkey : ¬(f.isRelation = true ∧ f.isNonInline = true)) (htype : c.type = .int)
      (hsize : f.size ∉ ([8, 16, 32, 64] : List UInt32)) : Mistyped f c (.fieldSize f.name f.size)
  | localizedArray (hkey : ¬(f.isRelation = true ∧ f.isNonInline = true)) (htype : c.type = .localized)
      (hlength : f.length ≠ 0) : Mistyped f c (.localizedArray f.name f.length)
  | unsupported (hkey : ¬(f.isRelation = true ∧ f.isNonInline = true)) {token : String}
      (htype : c.type = .other token) : Mistyped f c (.unsupportedType f.name token)

namespace Field
variable {f : Field} {c : Column} {localize : Bool} {fault : Fault}

theorem declaredType_eq_error_iff : f.declaredType c localize = .error fault ↔
    (c.type = .int ∧ f.size ∉ ([8, 16, 32, 64] : List UInt32) ∧ fault = .fieldSize f.name f.size) ∨
      (c.type = .localized ∧ f.length ≠ 0 ∧ fault = .localizedArray f.name f.length) ∨
      ∃ token, c.type = .other token ∧ fault = .unsupportedType f.name token := by
  unfold declaredType
  cases ht : c.type with
  | int => simp [map_eq_error, width_eq_error_iff, badSize]
  | float => simp
  | string => simp
  | localized => by_cases hl : f.length = 0 <;> simp [isArray, hl, @eq_comm _ fault]
  | other token => simp [unsupported, ht, ColumnType.token, @eq_comm _ fault]

theorem memberType_eq_error_iff : f.memberType c localize = .error fault ↔ f.Mistyped c fault := by
  by_cases hk : f.isPlainKey = true
  · unfold memberType
    rw [if_pos hk]
    rw [isPlainKey_iff] at hk
    constructor
    · intro h
      cases h
    · intro h
      cases h with
      | size hnot => exact absurd hk hnot
      | localizedArray hnot => exact absurd hk hnot
      | unsupported hnot => exact absurd hk hnot
  · rw [memberType_of_column c localize hk, map_eq_error, declaredType_eq_error_iff]
    rw [isPlainKey_iff] at hk
    constructor
    · rintro (⟨ht, hs, rfl⟩ | ⟨ht, hl, rfl⟩ | ⟨token, ht, rfl⟩)
      · exact .size hk ht hs
      · exact .localizedArray hk ht hl
      · exact .unsupported hk ht
    · intro h
      cases h with
      | size _ ht hs => exact .inl ⟨ht, hs, rfl⟩
      | localizedArray _ ht hl => exact .inr (.inl ⟨ht, hl, rfl⟩)
      | unsupported _ ht => exact .inr (.inr ⟨_, ht, rfl⟩)

theorem member_eq_error_iff : Definitions.member localize f c = .error fault ↔ f.Mistyped c fault := by
  unfold Definitions.member
  rw [map_eq_error, memberType_eq_error_iff]

theorem Mistyped.label (h : f.Mistyped c fault) : (c.type = .int → fault.code.label = "D2C0130") ∧
    (c.type = .localized → fault.code.label = "D2C0140") ∧
      ∀ token, c.type = .other token → fault.code.label = "D2C0120" := by
  cases h with
  | size _ ht _ => exact ⟨fun _ => rfl, by simp [ht], by simp [ht]⟩
  | localizedArray _ ht _ => exact ⟨by simp [ht], fun _ => rfl, by simp [ht]⟩
  | unsupported _ ht => exact ⟨by simp [ht], by simp [ht], fun _ _ => rfl⟩

theorem Mistyped.code (h : f.Mistyped c fault) :
    fault.code ∈ [Code.invalidFieldSize, Code.unsupportedLocalizedArray, Code.unsupportedColumnType] := by
  cases h <;> simp [Fault.code]

end Field

/-! ## The members of a version -/

namespace Definitions
variable {d : Definitions} {table : String} {localize : Bool} {fields : List Field} {fault : Fault}

def IsUndeclared (d : Definitions) (f : Field) : Prop := d.column? f.name = none

def IsMistyped (d : Definitions) (f : Field) : Prop :=
  ∃ c fault, d.column? f.name = some c ∧ f.Mistyped c fault

theorem resolveFields_eq_error_iff : d.resolveFields table fields = .error fault ↔
    ∃ f, IsFirst d.IsUndeclared fields f ∧ fault = .unknownColumn table f.name := by
  unfold resolveFields
  rw [mapM_eq_error_iff]
  refine exists_congr fun f => ?_
  refine (and_congr_left' (isFirst_congr (q := d.IsUndeclared) fun g _ => ?_)).trans (and_congr_right fun hfirst => ?_)
  · unfold IsUndeclared
    cases d.column? g.name <;> simp
  · obtain ⟨before, after, -, hf, -⟩ := hfirst
    unfold IsUndeclared at hf
    rw [hf]
    simp [@eq_comm _ fault]

theorem fields_of_resolved {resolved : List (Field × Column)} (h : d.resolveFields table fields = .ok resolved) :
    fields = resolved.map Prod.fst ∧ ∀ p ∈ resolved, d.column? p.1.name = some p.2 := by
  rw [resolveFields_eq_ok] at h
  induction h with
  | nil => exact ⟨rfl, by simp⟩
  | @cons f p fields resolved hp _ ih =>
    obtain ⟨hcolumn, rfl⟩ := hp
    exact ⟨by rw [List.map_cons, ih.1], List.forall_mem_cons.mpr ⟨hcolumn, ih.2⟩⟩

theorem isMistyped_of_resolved {p : Field × Column} (h : d.column? p.1.name = some p.2) :
    d.IsMistyped p.1 ↔ ∃ fault, p.1.Mistyped p.2 fault := by
  unfold IsMistyped
  simp [h]

/-- With a column for every field, the members fail for the first field that its column gives no type. -/
theorem mapM_member_eq_error_iff {resolved : List (Field × Column)}
    (h : ∀ p ∈ resolved, d.column? p.1.name = some p.2) :
    (resolved.mapM fun (f, c) => member localize f c) = .error fault ↔
      ∃ f c, IsFirst d.IsMistyped (resolved.map Prod.fst) f ∧ d.column? f.name = some c ∧ f.Mistyped c fault := by
  rw [mapM_eq_error_iff]
  simp only [Field.member_eq_error_iff, isFirst_map]
  have hfirst : ∀ p, IsFirst (fun p : Field × Column => ∃ fault, p.1.Mistyped p.2 fault) resolved p ↔
      IsFirst (fun p => d.IsMistyped p.1) resolved p := fun p =>
    isFirst_congr fun q hq => (isMistyped_of_resolved (h q hq)).symm
  constructor
  · rintro ⟨p, hp, hfault⟩
    have hcolumn : d.column? p.1.name = some p.2 := by
      obtain ⟨before, after, rfl, -⟩ := hp
      exact h p (by simp)
    exact ⟨p.1, p.2, ⟨p, rfl, (hfirst p).mp hp⟩, hcolumn, hfault⟩
  · rintro ⟨f, c, ⟨p, rfl, hp⟩, hcolumn, hfault⟩
    have hp' : p ∈ resolved := by
      obtain ⟨before, after, rfl, -⟩ := hp
      simp
    rw [h p hp'] at hcolumn
    cases hcolumn
    exact ⟨p, (hfirst p).mpr hp, hfault⟩

theorem members_eq_error_iff : d.members table localize fields = .error fault ↔
    (∃ f, IsFirst d.IsUndeclared fields f ∧ fault = .unknownColumn table f.name) ∨
      (∀ f ∈ fields, ¬d.IsUndeclared f) ∧
        ∃ f c, IsFirst d.IsMistyped fields f ∧ d.column? f.name = some c ∧ f.Mistyped c fault := by
  unfold members
  rw [bind_eq_error, resolveFields_eq_error_iff]
  refine or_congr_right ⟨?_, ?_⟩
  · rintro ⟨resolved, hr, hm⟩
    obtain ⟨rfl, hcolumns⟩ := fields_of_resolved hr
    refine ⟨?_, (mapM_member_eq_error_iff hcolumns).mp hm⟩
    intro f hf hnone
    obtain ⟨p, hp, rfl⟩ := List.mem_map.mp hf
    unfold IsUndeclared at hnone
    rw [hcolumns p hp] at hnone
    cases hnone
  · rintro ⟨hall, hfault⟩
    cases hr : d.resolveFields table fields with
    | error e =>
      obtain ⟨f, hf, -⟩ := resolveFields_eq_error_iff.mp hr
      obtain ⟨g, hg, hnone⟩ := exists_isFirst_iff.mp ⟨f, hf⟩
      exact absurd hnone (hall g hg)
    | ok resolved =>
      obtain ⟨rfl, hcolumns⟩ := fields_of_resolved hr
      exact ⟨resolved, rfl, (mapM_member_eq_error_iff hcolumns).mpr hfault⟩

/-! ## Stages -/

variable {build : Option Build} {fileId : UInt32} {version : Version} {hash : String}

theorem label_of_resolve (h : d.resolve build = .error fault) : fault.code.label = "D2C0100" := by
  unfold resolve at h
  split at h
  · cases h
    rfl
  · split at h
    · cases h
      rfl
    · cases h

theorem compile_of_unresolved (h : d.resolve build = .error fault) :
    d.compile table build fileId localize = .error fault := by
  unfold compile
  rw [h]
  rfl

theorem compile_of_resolved (h : d.resolve build = .ok (version, hash)) :
    d.compile table build fileId localize =
      (d.members table localize version.fields).map (⟨table, hash, fileId, ·, none⟩) := by
  unfold compile
  rw [h]
  simp only [bind, Except.bind]
  cases d.members table localize version.fields <;> rfl

theorem compileGuarded_eq (d : Definitions) (table : String) (build : Option Build) (fileId : UInt32)
    (localize : Bool) : d.compileGuarded table build fileId localize =
      (d.compile table build fileId localize).mapError Fault.diagnostic := by
  unfold compileGuarded
  cases hr : d.resolve build with
  | error fault =>
    rw [compile_of_unresolved hr]
    rfl
  | ok p =>
    obtain ⟨version, hash⟩ := p
    simp only [(resolve_eq_ok.mp hr).2]
    rw [compile_of_resolved hr]

theorem code_ne_internalBug (fault : Fault) : fault.code ≠ .internalBug := by
  cases fault <;> simp [Fault.code]

theorem label_eq_iff {code code' : Code} : code.label = code'.label ↔ code = code' := by
  cases code <;> cases code' <;> decide

/-! ## Outcomes -/

section
variable (hr : d.resolve build = .ok (version, hash))
include hr

theorem compile_eq_error_iff_of_resolved : d.compile table build fileId localize = .error fault ↔
    (∃ f, IsFirst d.IsUndeclared version.fields f ∧ fault = .unknownColumn table f.name) ∨
      (∀ f ∈ version.fields, ¬d.IsUndeclared f) ∧
        ∃ f c, IsFirst d.IsMistyped version.fields f ∧ d.column? f.name = some c ∧ f.Mistyped c fault := by
  rw [compile_of_resolved hr, map_eq_error, members_eq_error_iff]

theorem code_of_resolved (h : d.compile table build fileId localize = .error fault) :
    fault.code ≠ .unresolvedVersion ∧
      (fault.code = .unknownColumn → ∃ f ∈ version.fields, d.IsUndeclared f) := by
  rcases (compile_eq_error_iff_of_resolved hr).mp h with ⟨f, hf, rfl⟩ | ⟨-, f, c, -, -, hm⟩
  · exact ⟨by simp [Fault.code], fun _ => exists_isFirst_iff.mp ⟨f, hf⟩⟩
  · have hcode := hm.code
    constructor
    · intro e
      rw [e] at hcode
      simp at hcode
    · intro e
      rw [e] at hcode
      simp at hcode

theorem compile_of_isFirst_undeclared {f : Field} (hf : IsFirst d.IsUndeclared version.fields f) :
    d.compile table build fileId localize = .error (.unknownColumn table f.name) :=
  (compile_eq_error_iff_of_resolved hr).mpr (.inl ⟨f, hf, rfl⟩)

section
variable (hdeclared : ∀ f ∈ version.fields, ¬d.IsUndeclared f)
include hdeclared

theorem compile_eq_error_iff_of_declared : d.compile table build fileId localize = .error fault ↔
    ∃ f c, IsFirst d.IsMistyped version.fields f ∧ d.column? f.name = some c ∧ f.Mistyped c fault := by
  rw [compile_eq_error_iff_of_resolved hr]
  constructor
  · rintro (⟨f, hf, -⟩ | ⟨-, h⟩)
    · obtain ⟨g, hg, hnone⟩ := exists_isFirst_iff.mp ⟨f, hf⟩
      exact absurd hnone (hdeclared g hg)
    · exact h
  · exact fun h => .inr ⟨hdeclared, h⟩

theorem exists_compile_error_iff_of_declared : (∃ fault, d.compile table build fileId localize = .error fault) ↔
    ∃ f ∈ version.fields, d.IsMistyped f := by
  simp only [compile_eq_error_iff_of_declared hr hdeclared, ← exists_isFirst_iff]
  constructor
  · rintro ⟨fault, f, c, hf, -, -⟩
    exact ⟨f, hf⟩
  · rintro ⟨f, hf⟩
    obtain ⟨before, after, -, ⟨c, fault, hc, hm⟩, -⟩ := id hf
    exact ⟨fault, f, c, hf, hc, hm⟩

theorem compile_of_typed (htyped : ∀ f ∈ version.fields, ¬d.IsMistyped f) :
    ∃ members, d.compile table build fileId localize = .ok ⟨table, hash, fileId, members, none⟩ ∧
      version.layoutHashes.head? = some hash ∧
      List.Forall₂ (fun f m => m.field = f ∧ d.column? f.name = some m.column ∧
        m.name = memberName m.column.type f.name ∧ f.memberType m.column localize = .ok m.type ∧
        m.comment = f.flagComment) version.fields members := by
  cases hc : d.compile table build fileId localize with
  | error fault =>
    obtain ⟨f, hf, hm⟩ := (exists_compile_error_iff_of_declared hr hdeclared).mp ⟨fault, hc⟩
    exact absurd hm (htyped f hf)
  | ok compiled =>
    rw [compile_of_resolved hr, map_eq_ok] at hc
    obtain ⟨members, hmembers, rfl⟩ := hc
    refine ⟨members, rfl, (resolve_eq_ok.mp hr).2, ?_⟩
    refine (members_eq_ok.mp hmembers).imp fun f m ⟨c, hcolumn, hm⟩ => ?_
    obtain ⟨type, htype, rfl⟩ := member_eq_ok.mp hm
    exact ⟨rfl, hcolumn, rfl, htype, rfl⟩

end

end

/-- A table is refused for its version exactly when none is resolved, and else for the first field without a
column when there is one, and else for the first field without a type when there is one. Otherwise it has one
member for each field, in their order. A resolved version never lacks the hash that is then looked up. -/
theorem compile_outcome {out : Except Fault Compilation} (h : d.compile table build fileId localize = out) :
    ((∃ fault, out = .error fault ∧ fault.code.label = "D2C0100") ↔ ∃ fault, d.resolve build = .error fault) ∧
    (∀ fault, d.resolve build = .error fault → out = .error fault) ∧
    (∀ version hash, d.resolve build = .ok (version, hash) →
      ((∃ fault, out = .error fault ∧ fault.code.label = "D2C0110") ↔
        ∃ f ∈ version.fields, d.IsUndeclared f) ∧
      (∀ f, IsFirst d.IsUndeclared version.fields f → out = .error (.unknownColumn table f.name)) ∧
      ((∀ f ∈ version.fields, ¬d.IsUndeclared f) →
        ((∃ fault, out = .error fault) ↔ ∃ f ∈ version.fields, d.IsMistyped f) ∧
        (∀ f c fault, IsFirst d.IsMistyped version.fields f → d.column? f.name = some c → f.Mistyped c fault →
          out = .error fault ∧ (c.type = .int → fault.code.label = "D2C0130") ∧
            (c.type = .localized → fault.code.label = "D2C0140") ∧
            ∀ token, c.type = .other token → fault.code.label = "D2C0120") ∧
        ((∀ f ∈ version.fields, ¬d.IsMistyped f) →
          ∃ members, out = .ok ⟨table, hash, fileId, members, none⟩ ∧
            version.layoutHashes.head? = some hash ∧
            List.Forall₂ (fun f m => m.field = f ∧ d.column? f.name = some m.column ∧
              m.name = memberName m.column.type f.name ∧ f.memberType m.column localize = .ok m.type ∧
              m.comment = f.flagComment) version.fields members))) ∧
    d.compileGuarded table build fileId localize = out.mapError Fault.diagnostic ∧
    ∀ diagnostic, d.compileGuarded table build fileId localize = .error diagnostic →
      diagnostic.code.label ≠ "D2C0901" := by
  subst h
  refine ⟨⟨?_, ?_⟩, fun fault hr => compile_of_unresolved hr, ?_, compileGuarded_eq d table build fileId localize, ?_⟩
  · rintro ⟨fault, hc, hlabel⟩
    cases hr : d.resolve build with
    | error fault => exact ⟨fault, rfl⟩
    | ok p => exact absurd (label_eq_iff.mp hlabel) (code_of_resolved hr hc).1
  · rintro ⟨fault, hr⟩
    exact ⟨fault, compile_of_unresolved hr, label_of_resolve hr⟩
  · intro version hash hr
    refine ⟨⟨?_, ?_⟩, fun f hf => compile_of_isFirst_undeclared hr hf, fun hdeclared => ⟨?_, ?_, ?_⟩⟩
    · rintro ⟨fault, hc, hlabel⟩
      exact (code_of_resolved hr hc).2 (label_eq_iff.mp hlabel)
    · intro hsome
      obtain ⟨f, hf⟩ := exists_isFirst_iff.mpr hsome
      exact ⟨_, compile_of_isFirst_undeclared hr hf, rfl⟩
    · exact exists_compile_error_iff_of_declared hr hdeclared
    · intro f c fault hf hc hm
      exact ⟨(compile_eq_error_iff_of_declared hr hdeclared).mpr ⟨f, c, hf, hc, hm⟩, hm.label⟩
    · exact compile_of_typed hr hdeclared
  · intro diagnostic hc hlabel
    rw [compileGuarded_eq] at hc
    cases hcompile : d.compile table build fileId localize with
    | error fault =>
      rw [hcompile] at hc
      cases hc
      exact code_ne_internalBug fault (label_eq_iff.mp hlabel)
    | ok compiled =>
      rw [hcompile] at hc
      cases hc

def holdings : Definitions where
  columns := [⟨"Payload", .other "blob", none, true, none⟩]
  versions :=
    [⟨["A1"], [⟨1, 0, 0, 1⟩], [], [],
      [⟨"Payload", 0, false, 0, false, false, false, none⟩, ⟨"Owner", 32, true, 0, false, false, false, none⟩]⟩]

theorem compile_outcome_holdings :
    holdings.compile "Holding" none 7 true = .error (.unknownColumn "Holding" "Owner") ∧
    ∃ version ∈ holdings.versions, holdings.resolve none = .ok (version, "A1") ∧
      (∃ f ∈ version.fields, holdings.IsMistyped f) ∧ (∃ f ∈ version.fields, holdings.IsUndeclared f) ∧
      holdings.compileGuarded "Holding" none 7 true =
        .error ⟨.unknownColumn, "table Holding: field \"Owner\" has no COLUMNS entry"⟩ := by
  have h : holdings.compile "Holding" none 7 true = .error (.unknownColumn "Holding" "Owner") := by
    decide +kernel
  have hr : holdings.resolve none = .ok (holdings.versions.head (by decide), "A1") := by decide +kernel
  obtain ⟨-, -, hresolved, hguarded, -⟩ := compile_outcome h
  refine ⟨h, _, List.head_mem _, hr, ?_, (hresolved _ _ hr).1.mp ⟨_, rfl, rfl⟩, ?_⟩
  · exact ⟨_, List.mem_cons_self, _, _, rfl, .unsupported (by decide) rfl⟩
  · rw [hguarded]
    decide +kernel

end Definitions

end TableLayout
