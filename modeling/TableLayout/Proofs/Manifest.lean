import Mathlib.Data.List.Nodup
import TableLayout.Manifest
import TableLayout.Plan
import TableLayout.Proofs.BuildText
import TableLayout.Proofs.Json.Written

/-!
# Manifests of a plan

Every plan has manifests, which differ in the order of their members, in what else they hold, in the white space around
the version and the build, and in the spelling of their text. Each of them is read as the plan.
-/

namespace TableLayout

open Text

/-! ## Members of an object -/

def givenMembers (fields : List (String × Option Json)) : List (String × Json) :=
  fields.filterMap fun (key, v) => v.map fun v => (key, v)

/-- An object with these fields, in any order and among members with other keys. -/
inductive IsObjectOf (fields : List (String × Option Json)) : Json → Prop
  | intro {members others : List (String × Json)} (hmembers : members.Perm (givenMembers fields ++ others))
      (hothers : ∀ m ∈ others, m.1 ∉ fields.map (·.1)) : IsObjectOf fields (.object members)

theorem distinct_iff_nodup {keys : List String} : Manifest.distinct keys = true ↔ keys.Nodup := by
  induction keys with
  | nil => simp [Manifest.distinct]
  | cons key keys ih => simp [Manifest.distinct, ih]

section
variable {fields : List (String × Option Json)}

theorem mem_givenMembers {key : String} {v : Json} : (key, v) ∈ givenMembers fields ↔ (key, some v) ∈ fields := by
  unfold givenMembers
  rw [List.mem_filterMap]
  constructor
  · rintro ⟨⟨key', v'⟩, hmem, h⟩
    obtain ⟨v'', rfl, hpair⟩ := Option.map_eq_some_iff.mp h
    cases hpair
    exact hmem
  · exact fun h => ⟨(key, some v), h, rfl⟩

theorem givenMembers_sublist (fields : List (String × Option Json)) :
    ((givenMembers fields).map (·.1)).Sublist (fields.map (·.1)) := by
  induction fields with
  | nil => exact .slnil
  | cons field fields ih =>
    obtain ⟨key, v⟩ := field
    cases v with
    | none => exact ih.cons key
    | some v => exact ih.cons_cons key

theorem lookup_eq {members : List (String × Json)} {key : String} {v? : Option Json}
    (h : ∀ v, (key, v) ∈ members ↔ v? = some v) : members.lookup key = v? := by
  cases hlookup : members.lookup key with
  | none =>
    cases v? with
    | none => rfl
    | some v =>
      have hne := List.lookup_eq_none_iff.mp hlookup _ ((h v).mpr rfl)
      simp at hne
  | some v =>
    obtain ⟨front, rest, rfl, -⟩ := List.lookup_eq_some_iff.mp hlookup
    exact ((h v).mp (by simp)).symm

/-- The keys that a reader looks for are those of the given members, each once. -/
theorem perm_keys {members others : List (String × Json)} (hmembers : members.Perm (givenMembers fields ++ others))
    (hothers : ∀ m ∈ others, m.1 ∉ fields.map (·.1)) :
    ((members.map (·.1)).filter (fields.map (·.1)).contains).Perm ((givenMembers fields).map (·.1)) := by
  have hkept : ((givenMembers fields).map (·.1)).filter (fields.map (·.1)).contains =
      (givenMembers fields).map (·.1) := by
    rw [List.filter_eq_self]
    intro key hkey
    simpa using (givenMembers_sublist fields).subset hkey
  have hpassed : (others.map (·.1)).filter (fields.map (·.1)).contains = [] := by
    simpa using hothers
  have hperm := (hmembers.map (·.1)).filter (fields.map (·.1)).contains
  rwa [List.map_append, List.filter_append, hkept, hpassed, List.append_nil] at hperm

theorem fields_of_isObjectOf (hkeys : (fields.map (·.1)).Nodup) {v : Json} (h : IsObjectOf fields v) :
    Manifest.fields (fields.map (·.1)) v = some (fields.map (·.2)) := by
  cases h with
  | @intro members others hmembers hothers =>
    have hdistinct : Manifest.distinct ((members.map (·.1)).filter (fields.map (·.1)).contains) = true := by
      rw [distinct_iff_nodup, (perm_keys hmembers hothers).nodup_iff]
      exact (givenMembers_sublist fields).nodup hkeys
    have hlookup : (fields.map (·.1)).map (members.lookup ·) = fields.map (·.2) := by
      rw [List.map_map]
      apply List.map_congr_left
      rintro ⟨key, v?⟩ hfield
      apply lookup_eq
      intro v
      rw [hmembers.mem_iff, List.mem_append, mem_givenMembers]
      constructor
      · rintro (hgiven | hother)
        · exact congrArg Prod.snd (List.inj_on_of_nodup_map hkeys hfield hgiven rfl)
        · exact absurd (List.mem_map_of_mem hfield) (hothers _ hother)
      · rintro rfl
        exact .inl hfield
    show (if _ then _ else _) = _
    rw [if_pos hdistinct, hlookup]

end

/-! ## Values of a plan -/

def IsPadded (text : List Char) (s : String) : Prop :=
  ∃ before after, (∀ c ∈ before, isBlank c = true) ∧ (∀ c ∈ after, isBlank c = true) ∧
    s.toList = before ++ text ++ after

theorem trim_of_isPadded {text : List Char} {s : String} (h : IsPadded text s) : trim s.toList = trim text := by
  obtain ⟨before, after, hbefore, hafter, hs⟩ := h
  rw [hs, List.append_assoc, trim_blank_append hbefore, trim_append_blank hafter]

/-- What stands for a build: its text, or null or blank text or nothing where there is none. -/
inductive ExpressesBuild : Option Build → Option Json → Prop
  | text {b : Build} {s : String} (h : IsPadded b.text.toList s) : ExpressesBuild (some b) (some (.string s))
  | omitted : ExpressesBuild none none
  | null : ExpressesBuild none (some .null)
  | blank {s : String} (h : ∀ c ∈ s.toList, isBlank c = true) : ExpressesBuild none (some (.string s))

inductive ExpressesOutDir : Option String → Option Json → Prop
  | text (dir : String) : ExpressesOutDir (some dir) (some (.string dir))
  | omitted : ExpressesOutDir none none
  | null : ExpressesOutDir none (some .null)

inductive ExpressesPadded : Bool → Option Json → Prop
  | flag (padded : Bool) : ExpressesPadded padded (some (.bool padded))
  | omitted : ExpressesPadded false none

inductive ExpressesId : UInt32 → Option Json → Prop
  | number (id : UInt32) : ExpressesId id (some (.ofNat id.toNat))
  | omitted : ExpressesId 0 none

inductive ExpressesTable : String × UInt32 → Json → Prop
  | intro {name : String} {id : UInt32} {idValue : Option Json} {v : Json} (hid : ExpressesId id idValue)
      (hv : IsObjectOf [("name", some (.string name)), ("file_data_id", idValue)] v) : ExpressesTable (name, id) v

inductive Plan.IsExpressedByValue (plan : Plan) : Json → Prop
  | intro {schema : String} {build outDir padded : Option Json} {tables : List Json} {v : Json}
      (hschema : IsPadded manifestSchema.toList schema) (hbuild : ExpressesBuild plan.build build)
      (houtDir : ExpressesOutDir plan.outDir outDir) (hpadded : ExpressesPadded plan.padded padded)
      (htables : List.Forall₂ ExpressesTable plan.tables tables)
      (hv : IsObjectOf [("schema_version", some (.string schema)), ("build", build), ("out_dir", outDir),
        ("padded", padded), ("tables", some (.array tables))] v) : IsExpressedByValue plan v

def Plan.IsExpressedBy (plan : Plan) (text : String) : Prop :=
  ∃ v, Json.IsText text v ∧ plan.IsExpressedByValue v

theorem readBuild_of_expresses {build : Option Build} {v : Option Json} (h : ExpressesBuild build v) :
    ∃ text, Manifest.readOptional v = some text ∧ Plan.readBuild text = .ok build := by
  cases h with
  | @text b s h =>
    have htrim : trim s.toList = b.text.toList := by
      rw [trim_of_isPadded h, trim_of_no_blank fun c => b.isBlank_of_mem_text]
    refine ⟨some s, rfl, ?_⟩
    unfold Plan.readBuild
    rw [Option.map_some, Option.getD_some, htrim]
    split
    · next hnil => exact absurd hnil b.text_ne_nil
    · rw [b.read_text]
      rfl
  | omitted => exact ⟨none, rfl, rfl⟩
  | null => exact ⟨none, rfl, rfl⟩
  | @blank s h =>
    refine ⟨some s, rfl, ?_⟩
    unfold Plan.readBuild
    rw [Option.map_some, Option.getD_some, trim_eq_nil_iff.mpr h]

theorem readOptional_of_expresses {dir : Option String} {v : Option Json} (h : ExpressesOutDir dir v) :
    Manifest.readOptional v = some dir := by
  cases h <;> rfl

theorem readFlag_of_expresses {padded : Bool} {v : Option Json} (h : ExpressesPadded padded v) :
    Manifest.readFlag v = some padded := by
  cases h <;> rfl

theorem readId_of_expresses {id : UInt32} {v : Option Json} (h : ExpressesId id v) : Manifest.readId v = some id := by
  cases h with
  | number =>
    have hall : (Nat.toDigits 10 id.toNat).all Char.isDigit = true :=
      List.all_eq_true.mpr fun c hc => isDigit_of_mem_toDigits hc
    rw [Json.ofNat, Manifest.readId, if_pos hall, readWord_toDigits]
  | omitted => rfl

theorem readTable_of_expresses {table : String × UInt32} {v : Json} (h : ExpressesTable table v) :
    Manifest.readTable v = some ⟨table.1, table.2⟩ := by
  cases h with
  | @intro name id idValue v hid hv =>
    have hfields : Manifest.fields ["name", "file_data_id"] v = some [some (.string name), idValue] :=
      fields_of_isObjectOf (by simp) hv
    unfold Manifest.readTable
    rw [hfields]
    show (Manifest.readId idValue).bind (fun id => some (⟨name, id⟩ : ManifestTable)) = _
    rw [readId_of_expresses hid]
    rfl

theorem mapM_readTable {tables : List (String × UInt32)} {values : List Json}
    (h : List.Forall₂ ExpressesTable tables values) :
    values.mapM Manifest.readTable = some (tables.map fun table => ⟨table.1, table.2⟩) := by
  induction h with
  | nil => rfl
  | cons htable _ ih =>
    rw [List.mapM_cons, readTable_of_expresses htable, ih]
    rfl

theorem Plan.IsExpressedByValue.ofJson {plan : Plan} {v : Json} (h : plan.IsExpressedByValue v) : ∃ m,
    Manifest.ofJson v = some m ∧ trimmed m.schemaVersion = manifestSchema ∧ Plan.ofManifest m = .ok plan := by
  cases h with
  | @intro schema build outDir padded tables v hschema hbuild houtDir hpadded htables hv =>
    obtain ⟨text, htext, hread⟩ := readBuild_of_expresses hbuild
    have hfields : Manifest.fields ["schema_version", "build", "out_dir", "padded", "tables"] v =
        some [some (.string schema), build, outDir, padded, some (.array tables)] :=
      fields_of_isObjectOf (by simp) hv
    refine ⟨⟨schema, text, plan.outDir, plan.padded, plan.tables.map fun table => ⟨table.1, table.2⟩⟩, ?_, ?_, ?_⟩
    · unfold Manifest.ofJson
      rw [hfields]
      show (do
        let build ← Manifest.readOptional build
        let outDir ← Manifest.readOptional outDir
        let padded ← Manifest.readFlag padded
        let tables ← tables.mapM Manifest.readTable
        return (⟨schema, build, outDir, padded, tables⟩ : Manifest)) = _
      rw [htext, readOptional_of_expresses houtDir, readFlag_of_expresses hpadded, mapM_readTable htables]
      rfl
    · have htrim : trim manifestSchema.toList = manifestSchema.toList := by decide
      rw [trimmed, trim_of_isPadded hschema, htrim, String.ofList_toList]
    · unfold Plan.ofManifest
      rw [hread, List.map_map]
      show Except.ok (⟨plan.build, plan.outDir, plan.padded, plan.tables.map id⟩ : Plan) = _
      rw [List.map_id]

/-! ## One manifest of a plan -/

namespace Json

theorem itemValues_eq_map (items : List Written) : itemValues items = items.map Written.value := by
  induction items with
  | nil => rw [itemValues, List.map_nil]
  | cons item items ih => rw [itemValues, ih, List.map_cons]

end Json

open Json (Written)

def writtenBuild : Option Build → Written
  | some b => .string (some b.text)
  | none => .null

def writtenOutDir : Option String → Written
  | some dir => .string (some dir)
  | none => .null

def writtenTable (table : String × UInt32) : Written :=
  .object [(some "name", .string (some table.1)),
    (some "file_data_id", .number (Nat.toDigits 10 table.2.toNat) (Json.isNumber_toDigits _))]

def Plan.written (plan : Plan) : Written :=
  .object [(some "schema_version", .string (some manifestSchema)), (some "build", writtenBuild plan.build),
    (some "out_dir", writtenOutDir plan.outDir), (some "padded", .bool plan.padded),
    (some "tables", .array (plan.tables.map writtenTable))]

theorem isPadded_self (text : List Char) : IsPadded text (String.ofList text) := ⟨[], [], by simp, by simp, by simp⟩

theorem expressesBuild_written (build : Option Build) : ExpressesBuild build (some (writtenBuild build).value) := by
  cases build with
  | none =>
    rw [writtenBuild, Written.value]
    exact .null
  | some b =>
    rw [writtenBuild, Written.value]
    have hpadded := isPadded_self b.text.toList
    rw [String.ofList_toList] at hpadded
    exact .text hpadded

theorem expressesOutDir_written (dir : Option String) : ExpressesOutDir dir (some (writtenOutDir dir).value) := by
  cases dir with
  | none =>
    rw [writtenOutDir, Written.value]
    exact .null
  | some dir =>
    rw [writtenOutDir, Written.value]
    exact .text dir

theorem expressesTable_written (table : String × UInt32) : ExpressesTable table (writtenTable table).value := by
  have hvalue : (writtenTable table).value =
      .object [("name", .string table.1), ("file_data_id", .ofNat table.2.toNat)] := by
    simp [writtenTable, Written.value, Json.memberValues, Json.objectOf, Json.ofNat]
  rw [hvalue]
  exact .intro (.number table.2) (.intro (.refl _) (by simp))

theorem Plan.isExpressedByValue_written (plan : Plan) : plan.IsExpressedByValue plan.written.value := by
  have hvalue : plan.written.value = .object [("schema_version", .string manifestSchema),
      ("build", (writtenBuild plan.build).value), ("out_dir", (writtenOutDir plan.outDir).value),
      ("padded", .bool plan.padded), ("tables", .array ((plan.tables.map writtenTable).map Written.value))] := by
    simp [Plan.written, Written.value, Json.memberValues, Json.objectOf, Json.itemValues_eq_map]
  have htables : List.Forall₂ ExpressesTable plan.tables ((plan.tables.map writtenTable).map Written.value) := by
    rw [List.map_map, List.forall₂_map_right_iff, List.forall₂_same]
    exact fun table _ => expressesTable_written table
  have hschema := isPadded_self manifestSchema.toList
  rw [String.ofList_toList] at hschema
  rw [hvalue]
  exact .intro hschema (expressesBuild_written plan.build) (expressesOutDir_written plan.outDir) (.flag plan.padded)
    htables (.intro (.refl _) (by simp))

/-! ## Plans and manifests -/

/-- Every plan can be written as a manifest, and each of its manifests is read as the plan: with its members in any
order and among any others, in any layout and with any spelling of its strings. -/
theorem Plan.expressed_by_manifest (plan : Plan) : (∃ text, plan.IsExpressedBy text) ∧
    ∀ text : String, plan.IsExpressedBy text →
      ∃ m, Manifest.read text.toUTF8 = .ok m ∧ Plan.ofManifest m = .ok plan := by
  constructor
  · exact ⟨_, _, Json.isText_text plan.written, plan.isExpressedByValue_written⟩
  · rintro text ⟨v, htext, hv⟩
    obtain ⟨m, hm, hschema, hplan⟩ := hv.ofJson
    refine ⟨m, ?_, hplan⟩
    unfold Manifest.read
    rw [Json.read_of_isText htext, Option.bind_some, hm]
    exact if_pos hschema

def mapsPlan : Plan := ⟨some ⟨1, 2, 3, 4⟩, none, true, [("Map", 7), ("Map", 0)]⟩

def mapsWritten : Written :=
  .object [(some "note", .array [.null]),
    (some "tables", .array [
      .object [(some "file_data_id", .number (Nat.toDigits 10 7) (Json.isNumber_toDigits 7)),
        (some "name", .string (some "Map"))],
      .object [(some "name", .string (some "Map"))]]),
    (some "padded", .bool true), (some "build", .string (some "1.2.3.4\n")),
    (some "schema_version", .string (some " dbd2cpp.manifest@0.1.0"))]

def mapsText : String :=
  "\x7b\"note\":[null],\"tables\":[\x7b\"file_data_id\":7,\"name\":\"Map\"\x7d,\x7b\"name\":\"Map\"\x7d]," ++
    "\"padded\":true,\"build\":\"1.2.3.4\\n\",\"schema_version\":\" dbd2cpp.manifest@0.1.0\"\x7d"

theorem isExpressedBy_mapsText : mapsPlan.IsExpressedBy mapsText := by
  have htext : mapsWritten.text = mapsText := by decide +kernel
  rw [← htext]
  refine ⟨_, Json.isText_text _, ?_⟩
  have hvalue : mapsWritten.value = .object [("note", .array [.null]),
      ("tables", .array [.object [("file_data_id", .ofNat 7), ("name", .string "Map")],
        .object [("name", .string "Map")]]),
      ("padded", .bool true), ("build", .string "1.2.3.4\n"),
      ("schema_version", .string " dbd2cpp.manifest@0.1.0")] := by
    simp [mapsWritten, Written.value, Json.itemValues, Json.memberValues, Json.objectOf, Json.ofNat]
  have hfirst : ExpressesTable ("Map", 7) (.object [("file_data_id", .ofNat 7), ("name", .string "Map")]) :=
    .intro (.number 7) (.intro (.swap _ _ []) (by simp))
  have hsecond : ExpressesTable ("Map", 0) (.object [("name", .string "Map")]) :=
    .intro .omitted (.intro (.refl _) (by simp))
  have hreverse : ∀ a b c d e : String × Json, [a, b, c, d, e].Perm [e, d, c, b, a] :=
    fun a b c d e => List.reverse_perm [e, d, c, b, a]
  have hother : ∀ m ∈ [("note", Json.array [.null])],
      m.1 ∉ ["schema_version", "build", "out_dir", "padded", "tables"] := by
    simp
  rw [hvalue]
  exact .intro ⟨[' '], [], by decide, by decide, rfl⟩ (.text ⟨[], ['\n'], by decide, by decide, rfl⟩) .omitted
    (.flag true) (.cons hfirst (.cons hsecond .nil)) (.intro (hreverse _ _ _ _ _) hother)

theorem expressed_by_manifest_maps : mapsPlan.IsExpressedBy mapsText ∧
    ∃ m, Manifest.read mapsText.toUTF8 = .ok m ∧ Plan.ofManifest m = .ok mapsPlan :=
  ⟨isExpressedBy_mapsText, mapsPlan.expressed_by_manifest.2 mapsText isExpressedBy_mapsText⟩

end TableLayout
