import TableLayout.Compilation
import TableLayout.Proofs.Traversal

/-!
# What a compiled table is made of

A table is compiled exactly when a version with a hash is chosen and each of its fields has a column and a
type; its members then stand in the order of the fields.
-/

namespace TableLayout

def Definitions.Yields (d : Definitions) (localize : Bool) (f : Field) (m : Member) : Prop :=
  ∃ c, d.column? f.name = some c ∧ Definitions.member localize f c = .ok m

theorem member_eq_ok {localize : Bool} {f : Field} {c : Column} {m : Member} :
    Definitions.member localize f c = .ok m ↔
      ∃ type, f.memberType c localize = .ok type ∧ m = ⟨memberName c.type f.name, type, f, c⟩ := by
  unfold Definitions.member
  rw [map_eq_ok]
  simp only [@eq_comm _ m]

namespace Definitions

theorem resolve_eq_ok {d : Definitions} {build : Option Build} {version : Version} {hash : String} :
    d.resolve build = .ok (version, hash) ↔
      d.selected? build = some version ∧ version.canonicalHash? = some hash := by
  unfold resolve
  cases d.selected? build with
  | none => simp
  | some v =>
    dsimp only
    constructor
    · intro h
      split at h
      · cases h
      · next hash' hhash =>
        cases h
        exact ⟨rfl, hhash⟩
    · rintro ⟨hv, hhash⟩
      rw [Option.some.inj hv, hhash]

theorem mem_of_selected? {d : Definitions} {build : Option Build} {version : Version}
    (h : d.selected? build = some version) : version ∈ d.versions := by
  unfold selected? at h
  rcases Option.or_eq_some_iff.mp h with hc | ⟨-, hlast⟩
  · obtain ⟨b, -, hfind⟩ := Option.bind_eq_some_iff.mp hc
    exact List.mem_of_find?_eq_some hfind
  · exact List.mem_of_getLast? hlast

theorem resolveFields_eq_ok {d : Definitions} {table : String} {fields : List Field}
    {resolved : List (Field × Column)} :
    d.resolveFields table fields = .ok resolved ↔
      List.Forall₂ (fun f p => d.column? f.name = some p.2 ∧ p.1 = f) fields resolved := by
  unfold resolveFields
  rw [mapM_eq_ok_iff]
  refine iff_of_eq (congrArg (List.Forall₂ · fields resolved) ?_)
  funext f p
  obtain ⟨g, c⟩ := p
  cases d.column? f.name with
  | none => simp
  | some c' => simp [and_comm, eq_comm]

theorem yields_of_resolved {d : Definitions} {localize : Bool} {fields : List Field}
    {members : List Member} :
    (∃ resolved, List.Forall₂ (fun f (p : Field × Column) => d.column? f.name = some p.2 ∧ p.1 = f)
        fields resolved ∧
      List.Forall₂ (fun p m => member localize p.1 p.2 = .ok m) resolved members) ↔
      List.Forall₂ (d.Yields localize) fields members := by
  constructor
  · rintro ⟨resolved, hr, hm⟩
    induction hr generalizing members with
    | nil => cases hm; exact .nil
    | cons hp _ ih =>
      cases hm with
      | cons hm' hms =>
        obtain ⟨hc, rfl⟩ := hp
        exact .cons ⟨_, hc, hm'⟩ (ih hms)
  · intro h
    induction h with
    | nil => exact ⟨[], .nil, .nil⟩
    | @cons f m _ _ hy _ ih =>
      obtain ⟨c, hc, hm⟩ := hy
      obtain ⟨resolved, hr, hms⟩ := ih
      exact ⟨(f, c) :: resolved, .cons ⟨hc, rfl⟩ hr, .cons hm hms⟩

theorem fields_of_yields {d : Definitions} {localize : Bool} {fields : List Field} {members : List Member}
    (h : List.Forall₂ (d.Yields localize) fields members) : members.map (·.field) = fields := by
  induction h with
  | nil => rfl
  | cons hm _ ih =>
    obtain ⟨c, -, hm⟩ := hm
    obtain ⟨type, -, rfl⟩ := member_eq_ok.mp hm
    rw [List.map_cons, ih]

theorem members_eq_ok {d : Definitions} {table : String} {localize : Bool} {fields : List Field}
    {members : List Member} :
    d.members table localize fields = .ok members ↔ List.Forall₂ (d.Yields localize) fields members := by
  unfold Definitions.members
  simp only [bind_eq_ok, resolveFields_eq_ok, mapM_eq_ok_iff, ← yields_of_resolved]

theorem compile_eq_ok {d : Definitions} {table : String} {build : Option Build} {fileId : UInt32}
    {localize : Bool} {c : Compilation} :
    d.compile table build fileId localize = .ok c ↔
      ∃ version hash members, d.resolve build = .ok (version, hash) ∧
        List.Forall₂ (d.Yields localize) version.fields members ∧
        c = ⟨table, hash, fileId, members, none⟩ := by
  unfold compile
  simp only [bind_eq_ok, Prod.exists, members_eq_ok]
  constructor
  · rintro ⟨version, hash, hv, members, hm, hc⟩
    exact ⟨version, hash, members, hv, hm, (Except.ok.inj hc).symm⟩
  · rintro ⟨version, hash, members, hv, hm, rfl⟩
    exact ⟨version, hash, hv, members, hm, rfl⟩

/-! ## What a compilation depends on -/

theorem resolveFields_congr {d d' : Definitions} (table : String) {fields : List Field}
    (h : ∀ f ∈ fields, d'.column? f.name = d.column? f.name) :
    d'.resolveFields table fields = d.resolveFields table fields := by
  unfold resolveFields
  induction fields with
  | nil => rfl
  | cons f fields ih =>
    rw [List.mapM_cons, List.mapM_cons, h f List.mem_cons_self,
      ih fun g hg => h g (List.mem_cons_of_mem _ hg)]

theorem members_congr {d d' : Definitions} (table : String) (localize : Bool) {fields : List Field}
    (h : ∀ f ∈ fields, d'.column? f.name = d.column? f.name) :
    d'.members table localize fields = d.members table localize fields := by
  unfold Definitions.members
  rw [resolveFields_congr table h]

/-- A compilation looks at the fields and the hash of the chosen version, and at the columns of its fields. -/
theorem compile_congr {d d' : Definitions} {table : String} {build : Option Build} {fileId : UInt32}
    {localize : Bool}
    (hresolve : (d'.resolve build).map (fun p => (p.1.fields, p.2)) =
      (d.resolve build).map fun p => (p.1.fields, p.2))
    (hcolumns : ∀ version hash, d.resolve build = .ok (version, hash) →
      ∀ f ∈ version.fields, d'.column? f.name = d.column? f.name) :
    d'.compile table build fileId localize = d.compile table build fileId localize := by
  unfold compile
  cases hd : d.resolve build with
  | error e =>
    rw [hd] at hresolve
    cases hd' : d'.resolve build with
    | error e' =>
      rw [hd'] at hresolve
      cases hresolve
      rfl
    | ok p' =>
      rw [hd'] at hresolve
      cases hresolve
  | ok p =>
    obtain ⟨version, hash⟩ := p
    rw [hd] at hresolve
    obtain ⟨⟨version', hash'⟩, hd', hp⟩ := map_eq_ok.mp hresolve
    have hfields : version'.fields = version.fields := congrArg Prod.fst hp
    have hhash : hash' = hash := congrArg Prod.snd hp
    rw [hd', hhash]
    simp only [bind, Except.bind, hfields, members_congr table localize (hcolumns version hash hd)]

theorem memberType_of_compile {d : Definitions} {table : String} {build : Option Build}
    {fileId : UInt32} {localize : Bool} {c : Compilation}
    (h : d.compile table build fileId localize = .ok c) {m : Member} (hm : m ∈ c.members) :
    m.field.memberType m.column localize = .ok m.type := by
  obtain ⟨version, hash, members, -, hy, rfl⟩ := compile_eq_ok.mp h
  obtain ⟨f, -, c, -, hf⟩ := forall₂_mem_right hy hm
  obtain ⟨type, ht, rfl⟩ := member_eq_ok.mp hf
  exact ht

end Definitions

theorem compileDocument_eq_ok {document : ByteArray} {table : String} {build : Option Build} {fileId : UInt32}
    {localize : Bool} {c : Compilation} :
    compileDocument document table build fileId localize = .ok c ↔
      ∃ text d compiled, Text.decodeUtf8 document = .ok text ∧ Definitions.read text.toList = .ok d ∧
        d.compile table build fileId localize = .ok compiled ∧
        c = { compiled with digest := some (Sha256.hexDigest document) } := by
  unfold compileDocument readDocument
  cases Text.decodeUtf8 document with
  | error fault => simp [bind, Except.bind]
  | ok text => simp [bind_eq_ok, pure, Except.pure, @eq_comm _ c]

/-! ## A table with every kind of member -/

/-- An identifier and a relation outside the record, an array and a localized string. -/
def spells : Definitions where
  columns :=
    [⟨"ID", .int, none, true, none⟩, ⟨"Flags", .int, none, true, none⟩,
     ⟨"Name_lang", .localized, none, true, none⟩, ⟨"Map_ID", .int, some ⟨"Map", "ID"⟩, true, none⟩]
  versions :=
    [⟨["22222222"], [], [], [],
      [⟨"ID", 32, true, 0, true, false, true, none⟩, ⟨"Flags", 8, false, 3, false, false, false, none⟩,
       ⟨"Name_lang", 0, false, 0, false, false, false, none⟩,
       ⟨"Map_ID", 32, true, 0, false, true, true, none⟩]⟩]

def spellsCompiled : Compilation where
  table := "Spell"
  layoutHash := "22222222"
  fileId := 0
  members :=
    [⟨"ID", ⟨.int .w32 true, 0⟩, ⟨"ID", 32, true, 0, true, false, true, none⟩,
      ⟨"ID", .int, none, true, none⟩⟩,
     ⟨"Flags", ⟨.int .w8 false, 3⟩, ⟨"Flags", 8, false, 3, false, false, false, none⟩,
      ⟨"Flags", .int, none, true, none⟩⟩,
     ⟨"Name", ⟨.localizedString, 0⟩, ⟨"Name_lang", 0, false, 0, false, false, false, none⟩,
      ⟨"Name_lang", .localized, none, true, none⟩⟩,
     ⟨"MapID", ⟨.int .w32 true, 0⟩, ⟨"Map_ID", 32, true, 0, false, true, true, none⟩,
      ⟨"Map_ID", .int, some ⟨"Map", "ID"⟩, true, none⟩⟩]
  digest := none

theorem compile_spells : spells.compile "Spell" none 0 true = .ok spellsCompiled := by decide +kernel

end TableLayout
