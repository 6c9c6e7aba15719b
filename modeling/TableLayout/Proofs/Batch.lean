import TableLayout.Batch
import TableLayout.Proofs.Appending

/-!
# Batches keep their entries apart

What comes of an entry depends on its document alone. Over a source that gives the same document for a name
whatever it was asked before, a batch is therefore the row of its entries, each as if it were the only one.
-/

namespace TableLayout

open Text

/-! ## Attempts -/

/-- What comes of an entry whose document is there or not. -/
def entryOutcome (document : Option ByteArray) (build : Option Build) (options : RenderOptions)
    (entry : String × UInt32) : Except Failure Product :=
  match document with
  | none => .error (.notRetrieved entry.1)
  | some document => buildTable document entry.1 build entry.2 options

theorem table_ofFetched (fetched : Fetched) (table : String) (build : Option Build) (fileId : UInt32)
    (options : RenderOptions) : (Attempt.ofFetched fetched table build fileId options).table = table := by
  unfold Attempt.ofFetched
  cases fetched.outcome <;> rfl

theorem outcome_ofFetched (fetched : Fetched) (table : String) (build : Option Build) (fileId : UInt32)
    (options : RenderOptions) : (Attempt.ofFetched fetched table build fileId options).outcome =
      entryOutcome fetched.outcome.toOption build options (table, fileId) := by
  unfold Attempt.ofFetched entryOutcome
  cases fetched.outcome <;> rfl

theorem buildTable_eq_ok {document : ByteArray} {table : String} {build : Option Build} {fileId : UInt32}
    {options : RenderOptions} {product : Product} : buildTable document table build fileId options = .ok product ↔
      compileDocument document table build fileId options.localize = .ok product.compiled ∧
        product.compiled.render options.style = .ok product.artifacts := by
  unfold buildTable
  cases compileDocument document table build fileId options.localize with
  | error fault => simp
  | ok compiled =>
    cases hrender : compiled.render options.style with
    | error fault =>
      simp only [hrender, reduceCtorEq, Except.ok.injEq, false_iff, not_and]
      rintro rfl hok
      rw [hrender] at hok
      cases hok
    | ok artifacts =>
      simp only [hrender, Except.ok.injEq]
      constructor
      · rintro rfl
        exact ⟨rfl, hrender⟩
      · rintro ⟨rfl, hok⟩
        rw [hrender] at hok
        rw [Except.ok.inj hok]

theorem entryOutcome_eq_ok {document : Option ByteArray} {build : Option Build} {options : RenderOptions}
    {entry : String × UInt32} {product : Product} : entryOutcome document build options entry = .ok product ↔
      ∃ bytes, document = some bytes ∧ buildTable bytes entry.1 build entry.2 options = .ok product := by
  cases document <;> simp [entryOutcome]

def artifactsOf (outcome : Except Failure Product) : Option Artifacts := outcome.toOption.map (·.artifacts)

theorem artifactsOf_eq_some {outcome : Except Failure Product} {artifacts : Artifacts} :
    artifactsOf outcome = some artifacts ↔ ∃ product, outcome = .ok product ∧ product.artifacts = artifacts := by
  cases outcome <;> simp [artifactsOf, Except.toOption]

def failureOf (table : String) (outcome : Except Failure Product) : Option (String × String) :=
  match outcome with
  | .ok _ => none
  | .error failure => some (table, failure.text)

theorem artifacts?_eq (a : Attempt) : a.artifacts? = artifactsOf a.outcome := by
  unfold Attempt.artifacts? artifactsOf
  cases a.outcome <;> rfl

theorem failure?_eq (a : Attempt) : a.failure? = failureOf a.table a.outcome := by
  unfold Attempt.failure? failureOf
  cases a.outcome <;> rfl

theorem batchArtifacts_eq (attempts : List Attempt) : batchArtifacts attempts =
    (attempts.map fun a => (a.table, a.outcome)).filterMap fun p => artifactsOf p.2 := by
  unfold batchArtifacts
  rw [List.filterMap_map]
  exact congrFun (congrArg _ (funext artifacts?_eq)) _

theorem batchFailures_eq (attempts : List Attempt) : batchFailures attempts =
    (attempts.map fun a => (a.table, a.outcome)).filterMap fun p => failureOf p.1 p.2 := by
  unfold batchFailures
  rw [List.filterMap_map]
  exact congrFun (congrArg _ (funext failure?_eq)) _

section
variable {σ : Type} {fetch : String → StateM σ Fetched} {build : Option Build} (options : RenderOptions)

theorem run_attempt (table : String) (fileId : UInt32) (s : σ) :
    (attempt fetch build options table fileId).run s =
      (Attempt.ofFetched ((fetch table).run s).1 table build fileId options, ((fetch table).run s).2) := rfl

theorem run_batch_cons (plan : Plan) (entry : String × UInt32) (tables : List (String × UInt32)) (s : σ) :
    (runBatch fetch { plan with tables := entry :: tables } options).run s =
      let first := (attempt fetch plan.build options entry.1 entry.2).run s
      let rest := (runBatch fetch { plan with tables := tables } options).run first.2
      (first.1 :: rest.1, rest.2) := by
  unfold runBatch
  rw [List.mapM_cons]
  rfl

theorem run_batch_attempts (plan : Plan) (s : σ) :
    List.Forall₂ (fun entry a => ∃ fetched, a = Attempt.ofFetched fetched entry.1 plan.build entry.2 options)
      plan.tables ((runBatch fetch plan options).run s).1 := by
  obtain ⟨planned, outDir, padded, tables⟩ := plan
  induction tables generalizing s with
  | nil => exact .nil
  | cons entry tables ih =>
    rw [run_batch_cons options ⟨planned, outDir, padded, tables⟩]
    exact .cons ⟨_, rfl⟩ (ih _)

theorem tables_of_run_batch (plan : Plan) (s : σ) :
    ((runBatch fetch plan options).run s).1.map (·.table) = plan.tables.map (·.1) := by
  have htables : List.Forall₂ (fun (entry : String × UInt32) (a : Attempt) => entry.1 = a.table) plan.tables
      ((runBatch fetch plan options).run s).1 := by
    refine (run_batch_attempts options plan s).imp ?_
    intro entry a ha
    obtain ⟨fetched, rfl⟩ := ha
    exact (table_ofFetched ..).symm
  rw [eq_comm, ← List.forall₂_eq_eq_eq, List.forall₂_map_left_iff, List.forall₂_map_right_iff]
  exact htables

/-- In the states of `Inv` the source gives the documents of `document?`, and it stays in these states. -/
structure Answers (fetch : String → StateM σ Fetched) (Inv : σ → Prop) (document? : String → Option ByteArray) :
    Prop where
  document : ∀ table s, Inv s → ((fetch table).run s).1.outcome.toOption = document? table
  kept : ∀ table s, Inv s → Inv ((fetch table).run s).2

def alone (fetch : String → StateM σ Fetched) (build : Option Build) (options : RenderOptions) (s : σ)
    (entry : String × UInt32) : Attempt :=
  ((attempt fetch build options entry.1 entry.2).run s).1

theorem table_alone (fetch : String → StateM σ Fetched) (build : Option Build) (s : σ) (entry : String × UInt32) :
    (alone fetch build options s entry).table = entry.1 := table_ofFetched ..

section
variable {Inv : σ → Prop} {document? : String → Option ByteArray} (h : Answers fetch Inv document?)
include h

/-- One entry after another is given its document, as the states keep the invariant. -/
theorem Answers.run_batch (plan : Plan) {s : σ} (hs : Inv s) :
    ((runBatch fetch plan options).run s).1.map (fun a => (a.table, a.outcome)) =
        plan.tables.map (fun entry => (entry.1, entryOutcome (document? entry.1) plan.build options entry)) ∧
      Inv ((runBatch fetch plan options).run s).2 := by
  obtain ⟨planned, outDir, padded, tables⟩ := plan
  induction tables generalizing s with
  | nil => exact ⟨rfl, hs⟩
  | cons entry tables ih =>
    obtain ⟨houtcomes, hlast⟩ := ih (h.kept entry.1 s hs)
    rw [run_batch_cons options ⟨planned, outDir, padded, tables⟩]
    refine ⟨?_, hlast⟩
    simp only [List.map_cons, run_attempt, table_ofFetched, outcome_ofFetched, h.document entry.1 s hs]
    exact congrArg (List.cons _) houtcomes

theorem Answers.outcome_alone {s : σ} (hs : Inv s) (entry : String × UInt32) :
    (alone fetch build options s entry).outcome = entryOutcome (document? entry.1) build options entry := by
  rw [← h.document entry.1 s hs]
  exact outcome_ofFetched ..

theorem Answers.filterMap_outcomes {β : Type} (f : String × Except Failure Product → Option β) (plan : Plan)
    {s s' : σ} (hs : Inv s) (hs' : Inv s') :
    (((runBatch fetch plan options).run s).1.map fun a => (a.table, a.outcome)).filterMap f =
      plan.tables.filterMap fun entry => f (entry.1, (alone fetch plan.build options s' entry).outcome) := by
  rw [(h.run_batch options plan hs).1, List.filterMap_map]
  congr 1
  funext entry
  rw [h.outcome_alone options hs']
  rfl

theorem Answers.artifacts (plan : Plan) {s s' : σ} (hs : Inv s) (hs' : Inv s') :
    batchArtifacts ((runBatch fetch plan options).run s).1 =
      plan.tables.filterMap fun entry => (alone fetch plan.build options s' entry).artifacts? := by
  rw [batchArtifacts_eq, h.filterMap_outcomes options _ plan hs hs']
  simp only [artifacts?_eq]

theorem Answers.failures (plan : Plan) {s s' : σ} (hs : Inv s) (hs' : Inv s') :
    batchFailures ((runBatch fetch plan options).run s).1 =
      plan.tables.filterMap fun entry => (alone fetch plan.build options s' entry).failure? := by
  rw [batchFailures_eq, h.filterMap_outcomes options _ plan hs hs']
  simp only [failure?_eq, table_alone]

end

end

def itemShelf (table : String) : StateM Nat Fetched := fun asked =>
  (⟨if table = "Item" then .ok itemsText.toUTF8 else .error .emptyName, []⟩, asked + 1)

theorem buildTable_items : ∃ product,
    buildTable itemsText.toUTF8 "Item" (some ⟨1, 0, 0, 1⟩) 7 ⟨true, true⟩ = .ok product := by
  obtain ⟨a, ha⟩ := render_items
  unfold buildTable
  rw [compileDocument_items]
  simp only [RenderOptions.style, if_true]
  rw [render_digest itemsCompiled _ .padded, ha]
  exact ⟨_, rfl⟩

def itemsPlan : Plan := ⟨some ⟨1, 0, 0, 1⟩, none, true, [("Item", 7), ("None", 0), ("Item", 7)]⟩

end TableLayout
