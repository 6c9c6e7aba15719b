import TableLayout.Proofs.Artifact.Joined
import TableLayout.Proofs.Source.Cached

/-!
# White space around the name of a table

A source takes a name without the white space around it, whereas the artifacts spell it as it was given. A padded name
is therefore built whenever it names a document, into the artifacts of the trimmed name with the padding in the names
of their declarations.
-/

namespace TableLayout

open Text

/-! ## Sources -/

section
variable {m : Type → Type} [Monad m] [FileSystem m]

theorem Origin.fetch_trimmed (o : Origin) (table : String) :
    (o.fetch (trimmed table) : m Fetched) = o.fetch table := by
  unfold Origin.fetch fetchFromDirectory documentPath documentUrl
  simp only [documentFile_trimmed]

theorem Source.fetch_trimmed (s : Source) (table : String) :
    (s.fetch (trimmed table) : m Fetched) = s.fetch table := by
  unfold Source.fetch
  cases s.cache with
  | none => exact s.origin.fetch_trimmed table
  | some cache =>
    unfold Cache.fetch Cache.fill Cache.path documentPath
    simp only [documentFile_trimmed, Origin.fetch_trimmed]

end

/-! ## Compiling under another name -/

def Compilation.named (c : Compilation) (name : String) : Compilation := { c with table := name }

theorem compileDocument_named {document : ByteArray} {table : String} {build : Option Build} {fileId : UInt32}
    {localize : Bool} {c : Compilation} (h : compileDocument document table build fileId localize = .ok c)
    (name : String) : compileDocument document name build fileId localize = .ok (c.named name) := by
  obtain ⟨text, d, compiled, htext, hread, hcompile, rfl⟩ := compileDocument_eq_ok.mp h
  obtain ⟨version, hash, members, hresolve, hyields, rfl⟩ := Definitions.compile_eq_ok.mp hcompile
  exact compileDocument_eq_ok.mpr
    ⟨text, d, _, htext, hread, Definitions.compile_eq_ok.mpr ⟨version, hash, members, hresolve, hyields, rfl⟩, rfl⟩

def Artifacts.IsNamed (a : Artifacts) (name : String) : Prop :=
  ∀ part : Part, ∃ rest, part.text a = "struct " ++ name ++ part.suffix ++ "\n" ++ rest

theorem unlines_cons (l : String) (ls : List String) : unlines (l :: ls) = l ++ "\n" ++ unlines ls := by
  rw [← String.toList_inj]
  simp [toList_unlines]

theorem isNamed_of_render {c : Compilation} {style : StructStyle} {a : Artifacts} (h : c.render style = .ok a) :
    a.IsNamed c.table := by
  obtain ⟨r, rows, -, -, rfl⟩ := render_eq_ok.mp h
  intro part
  cases part with
  | record => exact ⟨_, unlines_cons _ _⟩
  | metadata =>
    have hname : "struct " ++ c.metaName = "struct " ++ c.table ++ "Meta" := (String.append_assoc ..).symm
    exact ⟨_, (unlines_cons _ _).trans (by rw [hname]; rfl)⟩
  | loadInfo => exact ⟨_, unlines_cons _ _⟩

theorem render_named {c : Compilation} {style : StructStyle} {a : Artifacts} (h : c.render style = .ok a)
    (name : String) : ∃ a', (c.named name).render style = .ok a' ∧ (a' = a ↔ name = c.table) := by
  obtain ⟨r, rows, hr, hrows, rfl⟩ := render_eq_ok.mp h
  refine ⟨_, render_eq_ok.mpr ⟨r, rows, hr, hrows, rfl⟩, ?_, ?_⟩
  · intro heq
    have hrecord : (c.named name).structureText style = c.structureText style := congrArg Artifacts.record heq
    have hheading := (unlines_cons _ _).symm.trans (hrecord.trans (unlines_cons _ _))
    have hnames : "struct " ++ name ++ "Entry" ++ "\n" = "struct " ++ c.table ++ "Entry" ++ "\n" :=
      (String.append_left_inj _).mp hheading
    simpa [String.append_assoc, String.append_right_inj, String.append_left_inj] using hnames
  · rintro rfl
    rfl

theorem buildTable_named {document : ByteArray} {table : String} {build : Option Build} {fileId : UInt32}
    {options : RenderOptions} {product : Product}
    (h : buildTable document table build fileId options = .ok product) (name : String) :
    ∃ product', buildTable document name build fileId options = .ok product' ∧
      product'.compiled = product.compiled.named name ∧
      (product'.artifacts = product.artifacts ↔ name = table) := by
  obtain ⟨hc, ha⟩ := buildTable_eq_ok.mp h
  obtain ⟨artifacts, hrender, hsame⟩ := render_named ha name
  rw [table_of_compileDocument hc] at hsame
  exact ⟨⟨product.compiled.named name, artifacts⟩, buildTable_eq_ok.mpr ⟨compileDocument_named hc name, hrender⟩,
    rfl, hsame⟩

theorem isNamed_of_buildTable {document : ByteArray} {table : String} {build : Option Build} {fileId : UInt32}
    {options : RenderOptions} {product : Product}
    (h : buildTable document table build fileId options = .ok product) : product.artifacts.IsNamed table := by
  obtain ⟨hc, ha⟩ := buildTable_eq_ok.mp h
  rw [← table_of_compileDocument hc]
  exact isNamed_of_render ha

/-! ## Building a padded name -/

theorem documentFile_of_fetch {s : Source} {t : FileTree} {table : String} {document : ByteArray}
    (h : ((s.fetch table : StateM FileTree Fetched).run t).1.outcome.toOption = some document) :
    ∃ file, documentFile table = .ok file := by
  cases hfile : documentFile table with
  | ok file => exact ⟨file, rfl⟩
  | error fault =>
    have hnone : ((s.fetch table : StateM FileTree Fetched).run t).1.outcome.toOption = none := by
      unfold Source.fetch
      cases s.cache with
      | none => exact Origin.document?_of_badName hfile t
      | some cache => exact (Cache.run_fetch_of_badName hfile t).1
    rw [hnone] at h
    cases h

theorem outcome_attempt_trimmed {s : Source} {t : FileTree} {table : String} {build : Option Build}
    {fileId : UInt32} {options : RenderOptions} {product : Product}
    (h : ((attempt s.fetch build options table fileId : StateM FileTree Attempt).run t).1.outcome = .ok product) :
    ∃ file document, documentFile table = .ok file ∧
      buildTable document table build fileId options = .ok product ∧
      ((attempt s.fetch build options (trimmed table) fileId : StateM FileTree Attempt).run t).1.outcome =
        buildTable document (trimmed table) build fileId options := by
  rw [run_attempt, outcome_ofFetched, entryOutcome_eq_ok] at h
  obtain ⟨document, hdocument, hbuild⟩ := h
  obtain ⟨file, hfile⟩ := documentFile_of_fetch hdocument
  refine ⟨file, document, hfile, hbuild, ?_⟩
  rw [run_attempt, outcome_ofFetched, s.fetch_trimmed, hdocument]
  rfl

/-- Whatever the source, a padded name that can be built can be built trimmed, from the same files into the same
table under its trimmed name. The artifacts are the same exactly when there was nothing to trim, as they spell the
name as it was given; only then are the names in them made of name characters. -/
theorem padded_name_artifacts {s : Source} {t : FileTree} {table : String} {build : Option Build} {fileId : UInt32}
    {options : RenderOptions} {product : Product}
    (h : ((attempt s.fetch build options table fileId : StateM FileTree Attempt).run t).1.outcome = .ok product) :
    ∃ product',
      ((attempt s.fetch build options (trimmed table) fileId : StateM FileTree Attempt).run t).1.outcome =
        .ok product' ∧
      ((attempt s.fetch build options (trimmed table) fileId : StateM FileTree Attempt).run t).2 =
        ((attempt s.fetch build options table fileId : StateM FileTree Attempt).run t).2 ∧
      product'.compiled = { product.compiled with table := trimmed table } ∧
      product.artifacts.IsNamed table ∧ product'.artifacts.IsNamed (trimmed table) ∧
      (trimmed table ≠ "" ∧ ∀ c ∈ (trimmed table).toList, isNameChar c = true) ∧
      (product'.artifacts = product.artifacts ↔ trimmed table = table) ∧
      ((∀ c ∈ table.toList, isNameChar c = true) ↔ trimmed table = table) := by
  obtain ⟨file, document, hfile, hbuild, htrimmed⟩ := outcome_attempt_trimmed h
  obtain ⟨product', hbuild', hcompiled, hsame⟩ := buildTable_named hbuild (trimmed table)
  obtain ⟨hne, hall, -⟩ := documentFile_eq_ok hfile
  refine ⟨product', htrimmed.trans hbuild', ?_, hcompiled, isNamed_of_buildTable hbuild,
    isNamed_of_buildTable hbuild', ⟨hne, hall⟩, hsame, (trimmed_eq_iff hall).symm⟩
  rw [run_attempt, run_attempt, s.fetch_trimmed]

/-! ## A padded name on the shelf -/

theorem document?_shelf_item {table : String} (h : documentFile table = .ok "Item.dbd") :
    shelfOrigin.document? shelf table = some itemsText.toUTF8 :=
  (document?_shelf h).mpr ⟨by decide +kernel, by decide, (node?_shelf_defs "Item.dbd").trans (if_pos rfl)⟩

theorem exists_attempt_item (table : String) (h : documentFile table = .ok "Item.dbd") (cache : Option Cache)
    (hcache : cache = none ∨ cache = some shelfCache) : ∃ product,
      ((attempt (Source.fetch ⟨shelfOrigin, cache⟩) (some ⟨1, 0, 0, 1⟩) ⟨true, true⟩ table 7 :
        StateM FileTree Attempt).run shelf).1.outcome = .ok product ∧
      buildTable itemsText.toUTF8 table (some ⟨1, 0, 0, 1⟩) 7 ⟨true, true⟩ = .ok product := by
  have hdocument := document?_shelf_item h
  have hfetched : ((Source.fetch ⟨shelfOrigin, cache⟩ table : StateM FileTree Fetched).run shelf).1.outcome.toOption =
      some itemsText.toUTF8 := by
    rcases hcache with rfl | rfl
    · exact hdocument
    · have hholds : shelfCache.Holds shelfOrigin shelf shelf := ⟨fun _ => rfl, coherent_shelf, storable_shelf⟩
      exact (hholds.fetch table).1.trans hdocument
  obtain ⟨product, hproduct⟩ := buildTable_items
  obtain ⟨product', hproduct', -⟩ := buildTable_named hproduct table
  refine ⟨product', ?_, hproduct'⟩
  rw [run_attempt, outcome_ofFetched, hfetched]
  exact hproduct'

/-- Behind the cache, with a line break in front of the name and an ideographic space behind it. -/
theorem padded_name_artifacts_item : ∃ product product',
    ((attempt (Source.fetch ⟨shelfOrigin, some shelfCache⟩) (some ⟨1, 0, 0, 1⟩) ⟨true, true⟩ "\nItem\u3000" 7 :
      StateM FileTree Attempt).run shelf).1.outcome = .ok product ∧
    ((attempt (Source.fetch ⟨shelfOrigin, some shelfCache⟩) (some ⟨1, 0, 0, 1⟩) ⟨true, true⟩ "Item" 7 :
      StateM FileTree Attempt).run shelf).1.outcome = .ok product' ∧
    product'.compiled = { product.compiled with table := "Item" } ∧ product'.artifacts.IsNamed "Item" ∧
    product.artifacts.IsNamed "\nItem\u3000" ∧ product'.artifacts ≠ product.artifacts := by
  have htrimmed : trimmed "\nItem\u3000" = "Item" := by decide +kernel
  obtain ⟨product, hproduct, -⟩ := exists_attempt_item "\nItem\u3000" (by decide +kernel) _ (.inr rfl)
  obtain ⟨product', hproduct', -, hcompiled, hnamed, hnamed', -, hsame, -⟩ := padded_name_artifacts hproduct
  rw [htrimmed] at hproduct' hcompiled hnamed' hsame
  refine ⟨product, product', hproduct, hproduct', hcompiled, hnamed', hnamed, ?_⟩
  rw [ne_eq, hsame]
  decide

/-- A blank before the name shows in the artifacts. -/
theorem padded_name_shows : ∃ product product',
    ((attempt (Source.fetch ⟨shelfOrigin, none⟩) (some ⟨1, 0, 0, 1⟩) ⟨true, true⟩ " Item" 7 :
      StateM FileTree Attempt).run shelf).1.outcome = .ok product ∧
    trimmed " Item" = "Item" ∧
    ((attempt (Source.fetch ⟨shelfOrigin, none⟩) (some ⟨1, 0, 0, 1⟩) ⟨true, true⟩ "Item" 7 :
      StateM FileTree Attempt).run shelf).1.outcome = .ok product' ∧
    product'.artifacts ≠ product.artifacts ∧
    ∃ rest, product.artifacts.record = "struct  ItemEntry\n" ++ rest := by
  obtain ⟨product', hproduct', hbuild'⟩ := exists_attempt_item "Item" (by decide +kernel) _ (.inl rfl)
  obtain ⟨product, hproduct, hbuild⟩ := exists_attempt_item " Item" (by decide +kernel) _ (.inl rfl)
  obtain ⟨_, hnamed, -, hsame⟩ := buildTable_named hbuild "Item"
  obtain rfl := Except.ok.inj (hbuild'.symm.trans hnamed)
  refine ⟨product, product', hproduct, by decide +kernel, hproduct', ?_, isNamed_of_buildTable hbuild .record⟩
  rw [ne_eq, hsame]
  decide

end TableLayout
