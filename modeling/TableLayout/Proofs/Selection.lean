import Mathlib.Data.List.Nodup
import TableLayout.Artifact
import TableLayout.Proofs.Compiled

/-!
# What a choice depends on

A version is chosen by the builds of all versions alone. Of two definitions with the same builds the same
position is chosen, and when the versions there agree in their fields and their hash, and the names of these
fields in their columns, both compile to the same table or fail with the same fault. Nothing else of the
definitions is looked at.
-/

namespace TableLayout

def Version.extent (v : Version) : List Build × List BuildRange := (v.builds, v.ranges)

namespace Definitions
variable {d d' : Definitions} {build : Option Build}

/-! ## Positions -/

theorem findIdx?_covers (vs : List Version) (b : Build) : vs.findIdx? (·.covers b) =
    (vs.map Version.extent).findIdx? fun e => e.1.contains b || e.2.any (·.contains b) := by
  rw [List.findIdx?_map]
  rfl

theorem selectedIndex_congr (h : d'.versions.map Version.extent = d.versions.map Version.extent) :
    d'.selectedIndex build = d.selectedIndex build := by
  have hlength : d'.versions.length = d.versions.length := by
    rw [← List.length_map Version.extent, h, List.length_map]
  unfold selectedIndex
  simp only [findIdx?_covers, h, hlength]

theorem getElem?_selectedIndex (d : Definitions) (build : Option Build) :
    d.versions[d.selectedIndex build]? = d.selected? build := by
  unfold selectedIndex selected? covering?
  cases build with
  | none => exact List.getLast?_eq_getElem?.symm
  | some b =>
    rw [Option.bind_some, Option.bind_some, List.find?_eq_bind_findIdx?_getElem?]
    cases hi : d.versions.findIdx? (·.covers b) with
    | none => exact List.getLast?_eq_getElem?.symm
    | some i =>
      obtain ⟨hlt, -, -⟩ := List.findIdx?_eq_some_iff_getElem.mp hi
      rw [Option.bind_some, List.getElem?_eq_getElem hlt, Option.some_or]

theorem selected?_isNone_congr (h : d'.versions.map Version.extent = d.versions.map Version.extent) :
    d'.selected? build = none ↔ d.selected? build = none := by
  have hextent : (d'.selected? build).map Version.extent = (d.selected? build).map Version.extent := by
    rw [← getElem?_selectedIndex, ← getElem?_selectedIndex, selectedIndex_congr h, ← List.getElem?_map, h,
      List.getElem?_map]
  rw [← Option.map_eq_none_iff (f := Version.extent), hextent, Option.map_eq_none_iff]

/-! ## Agreement -/

def Mentions (d : Definitions) (build : Option Build) (name : String) : Prop :=
  ∃ v f, d.selected? build = some v ∧ f ∈ v.fields ∧ f.name = name

/-- The versions of both are for the same builds, and what compiling looks at is the same in both. -/
structure SameSelection (d d' : Definitions) (build : Option Build) : Prop where
  extents : d'.versions.map Version.extent = d.versions.map Version.extent
  fields : ∀ v v', d.selected? build = some v → d'.selected? build = some v' → v'.fields = v.fields
  hash : ∀ v v', d.selected? build = some v → d'.selected? build = some v' →
    v'.canonicalHash? = v.canonicalHash?
  columns : ∀ name, d.Mentions build name → d'.column? name = d.column? name

namespace SameSelection

theorem resolve (h : d.SameSelection d' build) : (d'.resolve build).map (fun p => (p.1.fields, p.2)) =
    (d.resolve build).map fun p => (p.1.fields, p.2) := by
  unfold Definitions.resolve
  cases hv : d.selected? build with
  | none => rw [(selected?_isNone_congr h.extents).mpr hv]
  | some v =>
    cases hv' : d'.selected? build with
    | none =>
      rw [(selected?_isNone_congr h.extents).mp hv'] at hv
      cases hv
    | some v' =>
      simp only [h.hash v v' hv hv']
      cases v.canonicalHash? with
      | none => rfl
      | some hash => simp only [Except.map, h.fields v v' hv hv']

theorem compile (h : d.SameSelection d' build) (table : String) (fileId : UInt32) (localize : Bool) :
    d'.compile table build fileId localize = d.compile table build fileId localize := by
  refine compile_congr h.resolve fun version hash hr f hf => ?_
  exact h.columns f.name ⟨version, f, (resolve_eq_ok.mp hr).1, hf, rfl⟩

end SameSelection

/-! ## What is not looked at -/

theorem column?_eq_some_iff {name : String} {c : Column} :
    d.column? name = some c ↔ c ∈ d.columns ∧ c.name = name := by
  unfold column?
  constructor
  · intro h
    exact ⟨List.mem_of_find?_eq_some h, by simpa using List.find?_some h⟩
  · rintro ⟨hc, rfl⟩
    have hsome : (d.columns.find? (·.name = c.name)).isSome = true := List.find?_isSome.mpr ⟨c, hc, by simp⟩
    obtain ⟨c', hfind⟩ := Option.isSome_iff_exists.mp hsome
    have hname : c'.name = c.name := by simpa using List.find?_some hfind
    rw [hfind, List.inj_on_of_nodup_map d.distinct (List.mem_of_find?_eq_some hfind) hc hname]

theorem column?_congr {name : String} (h : ∀ c, c.name = name → (c ∈ d'.columns ↔ c ∈ d.columns)) :
    d'.column? name = d.column? name := by
  refine Option.ext fun c => ?_
  rw [column?_eq_some_iff, column?_eq_some_iff]
  exact and_congr_left fun hc => h c hc

theorem sameSelection_of_position (hextents : d'.versions.map Version.extent = d.versions.map Version.extent)
    (hposition : d'.versions[d.selectedIndex build]? = d.versions[d.selectedIndex build]?)
    (hcolumns : ∀ c : Column, d.Mentions build c.name → (c ∈ d'.columns ↔ c ∈ d.columns)) :
    d.SameSelection d' build := by
  have hselected : d'.selected? build = d.selected? build := by
    rw [← getElem?_selectedIndex, ← getElem?_selectedIndex, selectedIndex_congr hextents, hposition]
  have hsame : ∀ v v', d.selected? build = some v → d'.selected? build = some v' → v' = v := by
    intro v v' hv hv'
    rw [hselected, hv] at hv'
    exact (Option.some.inj hv').symm
  exact {
    extents := hextents
    fields := fun v v' hv hv' => congrArg Version.fields (hsame v v' hv hv')
    hash := fun v v' hv hv' => congrArg Version.canonicalHash? (hsame v v' hv hv')
    columns := fun name hname => column?_congr fun c hc => hcolumns c (hc ▸ hname) }

/-- Two definitions with the same selection have it at the same position, and compile to the same table and the
same artifacts or fail in the same way. The order of the columns, the columns that the selected version does not
name, and the versions at other positions are no part of it. -/
theorem compile_selection (d : Definitions) (build : Option Build) :
    (∀ d', d.SameSelection d' build →
      (d.versions[d.selectedIndex build]? = d.selected? build ∧
        d'.versions[d.selectedIndex build]? = d'.selected? build) ∧
      ∀ table fileId localize,
        d'.compile table build fileId localize = d.compile table build fileId localize ∧
        ∀ style, (d'.compile table build fileId localize >>= (·.render style)) =
          (d.compile table build fileId localize >>= (·.render style))) ∧
    ∀ d' : Definitions, d'.versions.map Version.extent = d.versions.map Version.extent →
      d'.versions[d.selectedIndex build]? = d.versions[d.selectedIndex build]? →
      (∀ c : Column, d.Mentions build c.name → (c ∈ d'.columns ↔ c ∈ d.columns)) → d.SameSelection d' build := by
  refine ⟨fun d' h => ⟨⟨getElem?_selectedIndex d build, ?_⟩, fun table fileId localize => ?_⟩, ?_⟩
  · rw [← selectedIndex_congr h.extents]
    exact getElem?_selectedIndex d' build
  · have hcompile := h.compile table fileId localize
    exact ⟨hcompile, fun style => by rw [hcompile]⟩
  · exact fun d' => sameSelection_of_position

def mountFields : List Field :=
  [⟨"ID", 32, true, 0, true, false, false, none⟩, ⟨"Speed", 0, false, 0, false, false, false, none⟩]

def mounts : Definitions where
  columns :=
    [⟨"ID", .int, none, true, none⟩, ⟨"Name", .string, none, true, none⟩, ⟨"Speed", .float, none, true, none⟩]
  versions :=
    [⟨["A1"], [⟨1, 0, 0, 1⟩], [], [], mountFields⟩,
     ⟨["B2"], [⟨2, 0, 0, 1⟩], [], [], [⟨"Name", 0, false, 0, false, false, false, none⟩]⟩]

/-- Other columns in another order, more about the first version, and a second one that cannot be compiled. -/
def mountsReworked : Definitions where
  columns :=
    [⟨"Speed", .float, none, true, none⟩, ⟨"Shape", .other "blob", none, false, none⟩,
     ⟨"ID", .int, none, true, none⟩]
  versions :=
    [⟨["A1", "A2"], [⟨1, 0, 0, 1⟩], [], ["checked"], mountFields⟩,
     ⟨[], [⟨2, 0, 0, 1⟩], [], [], [⟨"Shape", 0, false, 0, false, false, false, none⟩,
      ⟨"Name", 13, false, 0, false, false, false, none⟩]⟩]

def mountsReversed : Definitions where
  columns := mounts.columns.reverse
  versions := mounts.versions

def mountsCompiled : Compilation where
  table := "Mount"
  layoutHash := "A1"
  fileId := 7
  members :=
    [⟨"ID", ⟨.int .w32 true, 0⟩, ⟨"ID", 32, true, 0, true, false, false, none⟩, ⟨"ID", .int, none, true, none⟩⟩,
     ⟨"Speed", ⟨.float, 0⟩, ⟨"Speed", 0, false, 0, false, false, false, none⟩, ⟨"Speed", .float, none, true, none⟩⟩]
  digest := none

theorem sameSelection_mounts : mounts.SameSelection mountsReworked (some ⟨1, 0, 0, 1⟩) := by
  have hv : mounts.selected? (some ⟨1, 0, 0, 1⟩) = mounts.versions.head? := by decide +kernel
  have hv' : mountsReworked.selected? (some ⟨1, 0, 0, 1⟩) = mountsReworked.versions.head? := by decide +kernel
  have hagree : ∀ v v', mounts.selected? (some ⟨1, 0, 0, 1⟩) = some v →
      mountsReworked.selected? (some ⟨1, 0, 0, 1⟩) = some v' →
      v'.fields = v.fields ∧ v'.canonicalHash? = v.canonicalHash? := by
    intro v v' h h'
    rw [hv] at h
    rw [hv'] at h'
    cases h
    cases h'
    exact ⟨rfl, rfl⟩
  have hcolumns : ∀ g ∈ mountFields, mountsReworked.column? g.name = mounts.column? g.name := by decide +kernel
  refine ⟨by decide +kernel, fun v v' h h' => (hagree v v' h h').1, fun v v' h h' => (hagree v v' h h').2, ?_⟩
  rintro name ⟨v, f, h, hf, rfl⟩
  rw [hv] at h
  cases h
  exact hcolumns f hf

/-- The first version compiles in the same way in both, and the last one in one of them only. The columns may also
stand in reverse. -/
theorem compile_selection_mounts : mounts.SameSelection mountsReworked (some ⟨1, 0, 0, 1⟩) ∧
    mounts.compile "Mount" (some ⟨1, 0, 0, 1⟩) 7 true = .ok mountsCompiled ∧
    mountsReworked.compile "Mount" (some ⟨1, 0, 0, 1⟩) 7 true = .ok mountsCompiled ∧
    (mounts.compile "Mount" none 7 true).isOk = true ∧
    mountsReworked.compile "Mount" none 7 true = .error (.noLayoutHash none) ∧
    mounts.SameSelection mountsReversed (some ⟨1, 0, 0, 1⟩) := by
  have hcompile : mounts.compile "Mount" (some ⟨1, 0, 0, 1⟩) 7 true = .ok mountsCompiled := by decide +kernel
  obtain ⟨hsame, hunselected⟩ := compile_selection mounts (some ⟨1, 0, 0, 1⟩)
  refine ⟨sameSelection_mounts, hcompile, ?_, by decide +kernel, by decide +kernel, ?_⟩
  · rw [← hcompile]
    exact ((hsame mountsReworked sameSelection_mounts).2 "Mount" 7 true).1
  · exact hunselected _ rfl rfl fun c _ => List.mem_reverse

end Definitions

end TableLayout
