import TableLayout.Files.FileTree

/-!
# Places of a file tree

What is at a place after a node was put somewhere: the node where it was put, and what was there before
everywhere else. Everything above a node is a directory.
-/

namespace TableLayout

def Branch.node? : Branch → Place → Option Node
  | .leaf content, place => if place.isEmpty then some (.file content) else none
  | .fork entries, place => Entries.node? entries place

theorem Branch.eq_fork {branch : Branch} {place : Place} (h : branch.node? place = some .directory) :
    ∃ entries, branch = .fork entries := by
  cases branch with
  | leaf content => simp [Branch.node?] at h
  | fork entries => exact ⟨entries, rfl⟩

namespace Entries

theorem lookup_cons (name : String) (branch : Branch) (entries : Entries) (n : String) :
    List.lookup n ((name, branch) :: entries) = if n = name then some branch else entries.lookup n := by
  by_cases h : n = name
  · simp [h]
  · simp [List.lookup_cons, h, beq_false_of_ne h]

theorem lookup_set (name : String) (branch : Branch) (entries : Entries) (n : String) :
    (entries.set name branch).lookup n = if n = name then some branch else entries.lookup n := by
  induction entries with
  | nil => exact lookup_cons name branch [] n
  | cons entry rest ih =>
    obtain ⟨m, b⟩ := entry
    unfold set
    by_cases hm : m = name
    · rw [if_pos hm, lookup_cons, lookup_cons, hm]
      by_cases h : n = name <;> simp [h]
    · rw [if_neg hm, lookup_cons, lookup_cons, ih]
      by_cases h : n = m
      · simp [h, hm]
      · simp [h]

theorem node?_nil (entries : Entries) : entries.node? [] = some .directory := by
  rw [node?]

theorem node?_cons (entries : Entries) (name : String) (rest : Place) :
    entries.node? (name :: rest) = (entries.lookup name).bind (·.node? rest) := by
  rw [node?]
  cases entries.lookup name with
  | none => rfl
  | some branch =>
    cases branch with
    | leaf content => rfl
    | fork below => simp [Branch.node?]

theorem node?_of_below {entries : Entries} {place : Place} {name : String} {below : Place} {node : Node}
    (h : entries.node? (place ++ name :: below) = some node) : entries.node? place = some .directory := by
  induction place generalizing entries with
  | nil => exact node?_nil entries
  | cons n place ih =>
    rw [List.cons_append, node?_cons] at h
    rw [node?_cons]
    obtain ⟨branch, hl, hbranch⟩ := Option.bind_eq_some_iff.mp h
    rw [hl, Option.bind_some]
    cases branch with
    | leaf content => simp [Branch.node?] at hbranch
    | fork inner => exact ih hbranch

theorem put_singleton (node : Node) (entries : Entries) (name : String) :
    entries.put node [name] = entries.set name node.branch := by
  rw [put]
  rfl

theorem set_self {entries : Entries} {name : String} {branch : Branch} (h : entries.lookup name = some branch) :
    entries.set name branch = entries := by
  induction entries with
  | nil => cases h
  | cons entry rest ih =>
    obtain ⟨m, b⟩ := entry
    rw [lookup_cons] at h
    unfold set
    by_cases hm : m = name
    · rw [if_pos hm.symm, Option.some.injEq] at h
      rw [if_pos hm, h]
    · rw [if_neg (Ne.symm hm)] at h
      rw [if_neg hm, ih h]

theorem put_below {entries inner : Entries} {m : String} (h : entries.lookup m = some (.fork inner)) (node : Node)
    (place : Place) (name : String) :
    entries.put node (m :: (place ++ [name])) = entries.set m (.fork (inner.put node (place ++ [name]))) := by
  rw [put, if_neg (by simp), h]

/-- A node is put into a directory, where no directory is. -/
theorem node?_put {entries : Entries} {place : Place} {name : String} (node : Node)
    (hparent : entries.node? place = some .directory) (hfree : entries.node? (place ++ [name]) ≠ some .directory)
    (q : Place) :
    (entries.put node (place ++ [name])).node? q = if q = place ++ [name] then some node else entries.node? q := by
  induction place generalizing entries q with
  | nil =>
    cases q with
    | nil => simp [node?_nil]
    | cons n q =>
      rw [List.nil_append, put_singleton, node?_cons, lookup_set]
      by_cases hn : n = name
      · -- what is put has nothing below it, and there was no directory in its place
        subst hn
        cases q with
        | nil => cases node <;> simp [Node.branch, Branch.node?, node?_nil]
        | cons m q =>
          have hbelow : entries.node? (n :: m :: q) = none := by
            cases hq : entries.node? (n :: m :: q) with
            | none => rfl
            | some other => exact absurd (@node?_of_below entries [n] m q other hq) hfree
          rw [hbelow]
          cases node <;> simp [Node.branch, Branch.node?, node?_cons]
      · simp [hn, node?_cons]
  | cons m place ih =>
    rw [node?_cons] at hparent
    obtain ⟨branch, hl, hbranch⟩ := Option.bind_eq_some_iff.mp hparent
    obtain ⟨inner, rfl⟩ := Branch.eq_fork hbranch
    have hinner : node? inner (place ++ [name]) ≠ some .directory := by
      rw [List.cons_append, node?_cons, hl] at hfree
      exact hfree
    rw [List.cons_append, put_below hl]
    cases q with
    | nil => simp [node?_nil]
    | cons n q =>
      rw [node?_cons, lookup_set]
      by_cases hn : n = m
      · subst hn
        have hput := ih hbranch hinner q
        rw [node?_cons, hl]
        simpa [Branch.node?] using hput
      · simp [hn, node?_cons]

theorem put_self {entries : Entries} {place : Place} {name : String} {content : ByteArray}
    (h : entries.node? (place ++ [name]) = some (.file content)) :
    entries.put (.file content) (place ++ [name]) = entries := by
  induction place generalizing entries with
  | nil =>
    rw [List.nil_append, node?_cons] at h
    obtain ⟨branch, hl, hbranch⟩ := Option.bind_eq_some_iff.mp h
    rw [List.nil_append, put_singleton]
    cases branch with
    | leaf found =>
      cases hbranch
      exact set_self hl
    | fork inner => simp [Branch.node?, node?_nil] at hbranch
  | cons m place ih =>
    rw [List.cons_append, node?_cons] at h
    obtain ⟨branch, hl, hbranch⟩ := Option.bind_eq_some_iff.mp h
    cases branch with
    | leaf found => simp [Branch.node?] at hbranch
    | fork inner =>
      rw [List.cons_append, put_below hl, ih hbranch]
      exact set_self hl

end Entries

namespace FileTree
variable {t : FileTree} {place : Place} {name : String}

theorem node?_of_below {node : Node} (h : t.node? (place ++ [name]) = some node) :
    t.node? place = some .directory :=
  Entries.node?_of_below h

theorem node?_put (node : Node) (hparent : t.node? place = some .directory)
    (hfree : t.node? (place ++ [name]) ≠ some .directory) (q : Place) :
    (t.put (place ++ [name]) node).node? q = if q = place ++ [name] then some node else t.node? q :=
  Entries.node?_put node hparent hfree q

theorem put_self {content : ByteArray} (h : t.node? (place ++ [name]) = some (.file content)) :
    t.put (place ++ [name]) (.file content) = t :=
  FileTree.ext (Entries.put_self h) rfl

theorem node?_dropLast (h : t.node? place = some .directory) : t.node? place.dropLast = some .directory := by
  rcases List.eq_nil_or_concat place with rfl | ⟨front, last, rfl⟩
  · exact h
  · rw [List.concat_eq_append] at h ⊢
    rw [List.dropLast_concat]
    exact node?_of_below h

end FileTree

end TableLayout
