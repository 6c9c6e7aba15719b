import TableLayout.Proofs.Artifact.Lines
import TableLayout.Proofs.Batch

/-!
# Joined texts come apart again

The closing lines of a joined text are the last lines of the texts it is made of, so that it can be cut behind
them. What a batch writes tells which tables it wrote, and in which order.
-/

namespace TableLayout

open Text

/-! ## Lines of a text -/

def textLines (text : String) : List String := (lines text.toList).map String.ofList

theorem textLines_unlines {ls : List String} (h : ∀ l ∈ ls, '\n' ∉ l.toList) : textLines (unlines ls) = ls := by
  unfold textLines
  rw [lines_unlines h, List.map_map]
  simp [Function.comp_def]

theorem unlines_append (ls ls' : List String) : unlines (ls ++ ls') = unlines ls ++ unlines ls' := by
  rw [← String.toList_inj, String.toList_append]
  simp only [toList_unlines, List.flatMap_append]

theorem intercalate_unlines (lss : List (List String)) :
    "\n".intercalate (lss.map unlines) = unlines ([""].intercalate lss) := by
  induction lss with
  | nil => rfl
  | cons ls lss ih =>
    cases lss with
    | nil => simp
    | cons next rest =>
      rw [List.map_cons] at ih
      rw [List.map_cons, List.map_cons, String.intercalate_cons_cons, ih, List.intercalate_cons_cons,
        unlines_append, unlines_append]
      rfl

/-! ## Cutting behind closing lines -/

/-- Cuts lines behind each closing one, and drops the line between two declarations. -/
def declarations : List String → List (List String)
  | [] => []
  | [line] => [[line]]
  | line :: next :: rest =>
    if line = closing then [line] :: declarations rest
    else (declarations (next :: rest)).modifyHead (line :: ·)

theorem IsInner.ne_closing {line : String} (h : IsInner line) : line ≠ closing := by
  rintro rfl
  exact h.opens (by decide)

theorem IsDeclaration.closed {ls : List String} (h : IsDeclaration ls) :
    ∃ body, ls = body ++ [closing] ∧ closing ∉ body := by
  obtain ⟨body, rfl, hbody⟩ := h
  exact ⟨body, rfl, fun hmem => (hbody _ hmem).ne_closing rfl⟩

theorem declarations_cons {line : String} (h : line ≠ closing) {ls : List String} (hne : ls ≠ []) :
    declarations (line :: ls) = (declarations ls).modifyHead (line :: ·) := by
  obtain ⟨next, rest, rfl⟩ := List.exists_cons_of_ne_nil hne
  rw [declarations, if_neg h]

theorem declarations_closed {body : List String} (h : closing ∉ body) :
    declarations (body ++ [closing]) = [body ++ [closing]] := by
  induction body with
  | nil => rfl
  | cons line body ih =>
    simp only [List.mem_cons, not_or] at h
    rw [List.cons_append, declarations_cons (Ne.symm h.1) (by simp), ih h.2]
    rfl

theorem declarations_closed_append {body : List String} (h : closing ∉ body) (between : String)
    (rest : List String) :
    declarations (body ++ [closing] ++ between :: rest) = (body ++ [closing]) :: declarations rest := by
  induction body with
  | nil => simp [declarations]
  | cons line body ih =>
    simp only [List.mem_cons, not_or] at h
    rw [List.cons_append, List.cons_append, declarations_cons (Ne.symm h.1) (by simp), ih h.2]
    rfl

/-- A prefix that ends in a closing line ends with the first one, or goes on behind it. -/
theorem closed_prefix_append {front body rest : List String} (h : closing ∉ body) :
    (front <+: body ++ [closing] ++ rest ∧ front.getLast? = some closing) ↔
      front = body ++ [closing] ∨
        ∃ tail, front = body ++ [closing] ++ tail ∧ tail <+: rest ∧ tail.getLast? = some closing := by
  constructor
  · intro ⟨hfront, hlast⟩
    rcases List.prefix_or_prefix_of_prefix hfront (List.prefix_append _ rest) with hshort | ⟨tail, rfl⟩
    · rcases List.prefix_concat_iff.mp hshort with heq | hbody
      · exact .inl heq
      · exact absurd (hbody.subset (List.mem_of_getLast? hlast)) h
    · by_cases htail : tail = []
      · simp [htail]
      · rw [List.getLast?_append_of_ne_nil _ htail] at hlast
        exact .inr ⟨tail, rfl, (List.prefix_append_right_inj _).mp hfront, hlast⟩
  · intro hcases
    rcases hcases with rfl | ⟨tail, rfl, htail, hlast⟩
    · exact ⟨List.prefix_append _ _, by simp⟩
    · have hne : tail ≠ [] := by
        intro e
        rw [e] at hlast
        cases hlast
      exact ⟨(List.prefix_append_right_inj _).mpr htail, by rw [List.getLast?_append_of_ne_nil _ hne, hlast]⟩

section
variable {lss : List (List String)} (h : ∀ ls ∈ lss, IsDeclaration ls)
include h

theorem declarations_intercalate : declarations ([""].intercalate lss) = lss := by
  induction lss with
  | nil => rfl
  | cons ls lss ih =>
    obtain ⟨body, rfl, hbody⟩ := (h ls List.mem_cons_self).closed
    cases lss with
    | nil => simpa using declarations_closed hbody
    | cons next rest =>
      rw [List.intercalate_cons_cons, List.append_assoc, List.singleton_append,
        declarations_closed_append hbody, ih fun ls hls => h ls (List.mem_cons_of_mem _ hls)]

theorem count_closing_intercalate : ([""].intercalate lss).count closing = lss.length := by
  induction lss with
  | nil => rfl
  | cons ls lss ih =>
    obtain ⟨body, rfl, hbody⟩ := (h ls List.mem_cons_self).closed
    have hcount : (body ++ [closing]).count closing = 1 := by
      simp [List.count_eq_zero_of_not_mem hbody]
    cases lss with
    | nil => simpa using hcount
    | cons next rest =>
      have hrest := ih fun ls hls => h ls (List.mem_cons_of_mem _ hls)
      rw [List.intercalate_cons_cons, List.count_append, List.count_append, hcount, hrest]
      simp [closing]
      omega

/-- The prefixes that end in a closing line are the joined lines of the first declarations. -/
theorem closed_prefix_iff (front : List String) :
    (front <+: [""].intercalate lss ∧ front.getLast? = some closing) ↔
      ∃ n < lss.length, front = [""].intercalate (lss.take (n + 1)) := by
  induction lss generalizing front with
  | nil =>
    constructor
    · intro ⟨hfront, hlast⟩
      rw [List.prefix_nil.mp hfront] at hlast
      cases hlast
    · intro ⟨n, hn, _⟩
      cases hn
  | cons ls lss ih =>
    obtain ⟨body, rfl, hbody⟩ := (h ls List.mem_cons_self).closed
    cases lss with
    | nil =>
      have hone := @closed_prefix_append front body [] hbody
      rw [List.append_nil] at hone
      rw [List.intercalate_singleton, hone]
      simp
    | cons next rest =>
      have ih := ih fun ls hls => h ls (List.mem_cons_of_mem _ hls)
      rw [List.intercalate_cons_cons, List.append_assoc, List.singleton_append, closed_prefix_append hbody]
      constructor
      · intro hcases
        rcases hcases with rfl | ⟨tail, rfl, htail, hlast⟩
        · exact ⟨0, by simp, by simp⟩
        · rcases List.prefix_cons_iff.mp htail with rfl | ⟨t, rfl, ht⟩
          · cases hlast
          · by_cases hne : t = []
            · rw [hne] at hlast
              exact absurd hlast (by decide)
            · have hlast' : t.getLast? = some closing := by
                rwa [← List.singleton_append, List.getLast?_append_of_ne_nil _ hne] at hlast
              obtain ⟨n, hn, rfl⟩ := (ih t).mp ⟨ht, hlast'⟩
              refine ⟨n + 1, by simpa using hn, ?_⟩
              simp [List.intercalate_cons_cons]
      · intro ⟨n, hn, hfront⟩
        cases n with
        | zero => exact .inl (by simpa using hfront)
        | succ n =>
          obtain ⟨ht, hlast⟩ := (ih _).mpr ⟨n, by simpa using hn, rfl⟩
          refine .inr ⟨"" :: [""].intercalate ((next :: rest).take (n + 1)), ?_, ?_, ?_⟩
          · rw [hfront]
            simp [List.intercalate_cons_cons]
          · exact List.prefix_cons_inj _ |>.mpr ht
          · rw [← List.singleton_append, List.getLast?_append, hlast, Option.some_or]

end

/-! ## Joined texts -/

def splitText (text : String) : List String := (declarations (textLines text)).map unlines

/-- The text holds the given ones with one empty line between them, and its closing lines are their last lines, so
that it can be cut behind them. -/
structure SplitsInto (text : String) (texts : List String) : Prop where
  lines : textLines text = [""].intercalate (texts.map textLines)
  closed : ∀ t ∈ texts, ∃ body, textLines t = body ++ [closing] ∧ closing ∉ body
  ends : ∀ front, (front <+: textLines text ∧ front.getLast? = some closing) ↔
    ∃ n < texts.length, front = [""].intercalate ((texts.take (n + 1)).map textLines)
  count : (textLines text).count closing = texts.length
  split : splitText text = texts

theorem splitsInto_unlines {lss : List (List String)} (h : ∀ ls ∈ lss, IsDeclaration ls) :
    SplitsInto ("\n".intercalate (lss.map unlines)) (lss.map unlines) := by
  have hlines : ∀ ls ∈ lss, textLines (unlines ls) = ls := fun ls hls => textLines_unlines (h ls hls).one_line
  have hmap : (lss.map unlines).map textLines = lss := by
    rw [List.map_map]
    exact (List.map_congr_left hlines).trans (List.map_id _)
  have hjoined : textLines ("\n".intercalate (lss.map unlines)) = [""].intercalate lss := by
    rw [intercalate_unlines]
    apply textLines_unlines
    intro l hl
    rcases mem_of_mem_intercalate hl with hempty | ⟨ls, hls, hmem⟩
    · rw [List.mem_singleton.mp hempty]
      exact List.not_mem_nil
    · exact (h ls hls).one_line l hmem
  exact {
    lines := by rw [hjoined, hmap]
    closed := by
      intro t ht
      obtain ⟨ls, hls, rfl⟩ := List.mem_map.mp ht
      rw [hlines ls hls]
      exact (h ls hls).closed
    ends := by
      intro front
      rw [hjoined, closed_prefix_iff h, List.length_map]
      simp only [List.map_take, hmap]
    count := by rw [hjoined, count_closing_intercalate h, List.length_map]
    split := by
      unfold splitText
      rw [hjoined, declarations_intercalate h] }

/-! ## Artifacts -/

inductive Part
  | record
  | metadata
  | loadInfo

namespace Part

def text : Part → Artifacts → String
  | .record => Artifacts.record
  | .metadata => Artifacts.metadata
  | .loadInfo => Artifacts.loadInfo

def suffix : Part → String
  | .record => "Entry"
  | .metadata => "Meta"
  | .loadInfo => "LoadInfo"

theorem text_joinArtifacts (part : Part) (all : List Artifacts) :
    part.text (joinArtifacts all) = "\n".intercalate (all.map part.text) := by
  cases part <;> rfl

end Part

/-- The artifacts are those of a document of the table, whose name stands on one line. -/
def Artifacts.IsRendered (table : String) (a : Artifacts) : Prop :=
  '\n' ∉ table.toList ∧ ∃ document build fileId localize c style,
    compileDocument document table build fileId localize = .ok c ∧ c.render style = .ok a

theorem table_of_compileDocument {document : ByteArray} {table : String} {build : Option Build} {fileId : UInt32}
    {localize : Bool} {c : Compilation} (h : compileDocument document table build fileId localize = .ok c) :
    c.table = table := by
  obtain ⟨d, version, -, -, -, -, htable, -⟩ := version_of_compileDocument h
  exact htable

theorem Artifacts.IsRendered.declares {table : String} {a : Artifacts} (h : a.IsRendered table) (part : Part) :
    ∃ ls, part.text a = unlines ls ∧ IsDeclaration ls ∧ ls.head? = some ("struct " ++ table ++ part.suffix) := by
  obtain ⟨htable, document, build, fileId, localize, c, style, hc, ha⟩ := h
  have hlegible := legible_of_compileDocument hc htable
  obtain ⟨r, rows, -, hrows, rfl⟩ := render_eq_ok.mp ha
  rw [← table_of_compileDocument hc]
  cases part with
  | record => exact ⟨_, rfl, hlegible.structureLines style, rfl⟩
  | metadata =>
    refine ⟨_, rfl, hlegible.metadataLines r, ?_⟩
    rw [String.append_assoc]
    rfl
  | loadInfo => exact ⟨_, rfl, hlegible.loadInfoLines hrows, rfl⟩

section
variable {all : List Artifacts} (h : ∀ a ∈ all, ∃ table, a.IsRendered table)
include h

theorem exists_declarations (part : Part) :
    ∃ lss : List (List String), all.map part.text = lss.map unlines ∧ ∀ ls ∈ lss, IsDeclaration ls := by
  induction all with
  | nil => exact ⟨[], rfl, by simp⟩
  | cons a all ih =>
    obtain ⟨table, ha⟩ := h a List.mem_cons_self
    obtain ⟨ls, htext, hls, -⟩ := ha.declares part
    obtain ⟨lss, hmap, hlss⟩ := ih fun a ha => h a (List.mem_cons_of_mem _ ha)
    refine ⟨ls :: lss, ?_, ?_⟩
    · rw [List.map_cons, List.map_cons, htext, hmap]
    · simpa using ⟨hls, hlss⟩

theorem joined_splitsInto (part : Part) : SplitsInto (part.text (joinArtifacts all)) (all.map part.text) := by
  obtain ⟨lss, hmap, hlss⟩ := exists_declarations h part
  rw [Part.text_joinArtifacts, hmap]
  exact splitsInto_unlines hlss

theorem joinArtifacts_inj {all' : List Artifacts} (h' : ∀ a ∈ all', ∃ table, a.IsRendered table)
    (heq : joinArtifacts all = joinArtifacts all') : all = all' := by
  have hparts : ∀ part : Part, all.map part.text = all'.map part.text := by
    intro part
    rw [← (joined_splitsInto h part).split, ← (joined_splitsInto h' part).split, heq]
  have hlength : all.length = all'.length := by
    simpa using congrArg List.length (hparts .record)
  have hitem : ∀ (part : Part) (i : Nat) (hi : i < all.length) (hi' : i < all'.length),
      part.text all[i] = part.text all'[i] := by
    intro part i hi hi'
    have := congrArg (·[i]?) (hparts part)
    simpa [hi, hi'] using this
  apply List.ext_getElem hlength
  intro i hi hi'
  have hrecord := hitem .record i hi hi'
  have hmetadata := hitem .metadata i hi hi'
  have hloadInfo := hitem .loadInfo i hi hi'
  cases ha : all[i]
  cases ha' : all'[i]
  simp_all [Part.text]

end

/-! ## Batches -/

theorem isRendered_of_buildTable {document : ByteArray} {table : String} {build : Option Build} {fileId : UInt32}
    {options : RenderOptions} {product : Product}
    (h : buildTable document table build fileId options = .ok product) (htable : '\n' ∉ table.toList) :
    product.artifacts.IsRendered table := by
  obtain ⟨hc, ha⟩ := buildTable_eq_ok.mp h
  exact ⟨htable, document, build, fileId, _, _, _, hc, ha⟩

section
variable {σ : Type} (fetch : String → StateM σ Fetched) {plan : Plan} (options : RenderOptions) (s : σ)
  (hplan : ∀ entry ∈ plan.tables, '\n' ∉ entry.1.toList)
include hplan

theorem isRendered_of_run_batch : ∀ a ∈ ((runBatch fetch plan options).run s).1,
    ∀ artifacts, a.artifacts? = some artifacts → artifacts.IsRendered a.table := by
  intro a ha artifacts hartifacts
  obtain ⟨entry, hentry, fetched, rfl⟩ := forall₂_mem_right (run_batch_attempts options plan s) ha
  rw [artifacts?_eq, outcome_ofFetched, artifactsOf_eq_some] at hartifacts
  obtain ⟨product, hproduct, rfl⟩ := hartifacts
  obtain ⟨document, -, hbuild⟩ := entryOutcome_eq_ok.mp hproduct
  rw [table_ofFetched]
  exact isRendered_of_buildTable hbuild (hplan entry hentry)

theorem heads_of_run_batch (part : Part) :
    (batchArtifacts ((runBatch fetch plan options).run s).1).map (fun a => (textLines (part.text a)).head?) =
      (((runBatch fetch plan options).run s).1.filter (·.artifacts?.isSome)).map fun a =>
        some ("struct " ++ a.table ++ part.suffix) := by
  have hrendered := isRendered_of_run_batch fetch options s hplan
  revert hrendered
  generalize ((runBatch fetch plan options).run s).1 = attempts
  intro hrendered
  unfold batchArtifacts
  induction attempts with
  | nil => rfl
  | cons a attempts ih =>
    have ih := ih fun b hb => hrendered b (List.mem_cons_of_mem _ hb)
    cases hartifacts : a.artifacts? with
    | none => simpa [hartifacts] using ih
    | some artifacts =>
      obtain ⟨ls, htext, hls, hhead⟩ := (hrendered a List.mem_cons_self artifacts hartifacts).declares part
      have hline : (textLines (part.text artifacts)).head? = some ("struct " ++ a.table ++ part.suffix) := by
        rw [htext, textLines_unlines hls.one_line, hhead]
      simpa [hartifacts, hline] using ih

end

/-- Joined texts can be cut into the texts they were joined from, so that different lists are joined to different
texts. A batch writes the texts of the tables that succeeded, each once and in the order of the plan. -/
theorem joined_decodes :
    (∀ all : List Artifacts, (∀ a ∈ all, ∃ table, a.IsRendered table) →
      (∀ part : Part, SplitsInto (part.text (joinArtifacts all)) (all.map part.text)) ∧
      ∀ all' : List Artifacts, (∀ a ∈ all', ∃ table, a.IsRendered table) →
        joinArtifacts all = joinArtifacts all' → all = all') ∧
    ∀ (σ : Type) (fetch : String → StateM σ Fetched) (plan : Plan) (options : RenderOptions) (s : σ),
      (∀ entry ∈ plan.tables, '\n' ∉ entry.1.toList) →
      let attempts := ((runBatch fetch plan options).run s).1
      attempts.map (·.table) = plan.tables.map (·.1) ∧
      ∀ part : Part,
        SplitsInto (part.text (joinArtifacts (batchArtifacts attempts))) ((batchArtifacts attempts).map part.text) ∧
        (splitText (part.text (joinArtifacts (batchArtifacts attempts)))).map (fun t => (textLines t).head?) =
          (attempts.filter (·.artifacts?.isSome)).map fun a => some ("struct " ++ a.table ++ part.suffix) := by
  refine ⟨fun all h => ⟨joined_splitsInto h, fun all' h' heq => joinArtifacts_inj h h' heq⟩, ?_⟩
  intro σ fetch plan options s hplan
  have hrendered := isRendered_of_run_batch fetch options s hplan
  have hall : ∀ artifacts ∈ batchArtifacts ((runBatch fetch plan options).run s).1,
      ∃ table, artifacts.IsRendered table := by
    intro artifacts hmem
    obtain ⟨a, ha, hartifacts⟩ := List.mem_filterMap.mp hmem
    exact ⟨a.table, hrendered a ha artifacts hartifacts⟩
  refine ⟨tables_of_run_batch options plan s, fun part => ⟨joined_splitsInto hall part, ?_⟩⟩
  rw [(joined_splitsInto hall part).split, List.map_map]
  exact heads_of_run_batch fetch options s hplan part

theorem joined_decodes_items : ∃ a : Artifacts, a.IsRendered "Item" ∧
    splitText (joinArtifacts [a, a]).loadInfo = [a.loadInfo, a.loadInfo] ∧
    (textLines (joinArtifacts [a, a]).record).count closing = 2 ∧
    (∀ entry ∈ itemsPlan.tables, '\n' ∉ entry.1.toList) ∧
    ((runBatch itemShelf itemsPlan ⟨true, true⟩).run 0).1.map (·.table) = ["Item", "None", "Item"] := by
  obtain ⟨product, hproduct⟩ := buildTable_items
  have hitem : product.artifacts.IsRendered "Item" := isRendered_of_buildTable hproduct (by decide)
  have hplan : ∀ entry ∈ itemsPlan.tables, '\n' ∉ entry.1.toList := by decide
  obtain ⟨hlists, hbatches⟩ := joined_decodes
  obtain ⟨hsplits, -⟩ := hlists [product.artifacts, product.artifacts] (by
    intro a ha
    rw [List.eq_of_mem_replicate (n := 2) ha]
    exact ⟨"Item", hitem⟩)
  obtain ⟨htables, -⟩ := hbatches Nat itemShelf itemsPlan ⟨true, true⟩ 0 hplan
  exact ⟨product.artifacts, hitem, (hsplits .loadInfo).split, (hsplits .record).count, hplan, htables⟩

end TableLayout
