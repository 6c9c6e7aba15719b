/-!
# Branches of a file tree

A branch is a file, or a directory with the branches below it under their names, each of which stands once. A place is
given by the names on the way down.
-/

namespace TableLayout

abbrev Place := List String

inductive Node
  | file (content : ByteArray)
  | directory

inductive Branch
  | leaf (content : ByteArray)
  | fork (entries : List (String × Branch))

abbrev Entries := List (String × Branch)

def Node.branch : Node → Branch
  | .file content => .leaf content
  | .directory => .fork []

namespace Entries

/-- Sets the branch under a name, where it stands if the name is taken. -/
def set (name : String) (branch : Branch) : Entries → Entries
  | [] => [(name, branch)]
  | (n, b) :: rest => if n = name then (n, branch) :: rest else (n, b) :: set name branch rest

def remove (name : String) (entries : Entries) : Entries := entries.filter (·.1 ≠ name)

def node? (entries : Entries) : Place → Option Node
  | [] => some .directory
  | name :: rest =>
    match entries.lookup name with
    | none => none
    | some (.leaf content) => if rest.isEmpty then some (.file content) else none
    | some (.fork below) => node? below rest

def names? (entries : Entries) : Place → Option (List String)
  | [] => some (entries.map (·.1))
  | name :: rest =>
    match entries.lookup name with
    | some (.fork below) => names? below rest
    | _ => none

/-- Puts a node to a place and makes the directories above it; nothing fits below a file. -/
def put (node : Node) (entries : Entries) : Place → Entries
  | [] => entries
  | name :: rest =>
    if rest.isEmpty then set name node.branch entries
    else
      match entries.lookup name with
      | none => set name (.fork (put node [] rest)) entries
      | some (.leaf _) => entries
      | some (.fork below) => set name (.fork (put node below rest)) entries

def erase (entries : Entries) : Place → Entries
  | [] => entries
  | name :: rest =>
    if rest.isEmpty then remove name entries
    else
      match entries.lookup name with
      | some (.fork below) => set name (.fork (erase below rest)) entries
      | _ => entries

end Entries

/-! ## Distinct names -/

mutual

/-- No two branches in one directory have one name, here and below. -/
def Branch.distinct : Branch → Bool
  | .leaf _ => true
  | .fork entries => Entries.distinct entries

def Entries.distinct : Entries → Bool
  | [] => true
  | (name, branch) :: rest => rest.all (·.1 != name) && branch.distinct && Entries.distinct rest

end

theorem Node.distinct_branch (node : Node) : node.branch.distinct = true := by
  cases node <;> rfl

namespace Entries
variable {entries : Entries} {name : String} {branch : Branch}

theorem distinct_cons : distinct ((name, branch) :: entries) = true ↔
    (∀ entry ∈ entries, entry.1 ≠ name) ∧ branch.distinct = true ∧ entries.distinct = true := by
  rw [distinct, Bool.and_eq_true, Bool.and_eq_true, List.all_eq_true, and_assoc]
  simp only [bne_iff_ne]

theorem nodup_names (h : entries.distinct = true) : (entries.map (·.1)).Nodup := by
  induction entries with
  | nil => exact .nil
  | cons entry rest ih =>
    obtain ⟨hnew, -, hrest⟩ := distinct_cons.mp h
    refine List.nodup_cons.mpr ⟨?_, ih hrest⟩
    intro hmem
    obtain ⟨other, hother, heq⟩ := List.mem_map.mp hmem
    exact hnew other hother heq

theorem distinct_of_lookup (h : entries.distinct = true) (hlookup : entries.lookup name = some branch) :
    branch.distinct = true := by
  induction entries with
  | nil => cases hlookup
  | cons entry rest ih =>
    obtain ⟨-, hbranch, hrest⟩ := distinct_cons.mp h
    rw [List.lookup_cons] at hlookup
    split at hlookup
    · cases hlookup
      exact hbranch
    · exact ih hrest hlookup

theorem mem_set {entry : String × Branch} (h : entry ∈ entries.set name branch) : entry.1 = name ∨ entry ∈ entries := by
  induction entries with
  | nil => exact .inl (congrArg Prod.fst (List.mem_singleton.mp h))
  | cons first rest ih =>
    rw [set] at h
    split at h
    · next hname =>
      rcases List.mem_cons.mp h with rfl | h
      · exact .inl hname
      · exact .inr (List.mem_cons_of_mem _ h)
    · rcases List.mem_cons.mp h with rfl | h
      · exact .inr List.mem_cons_self
      · exact (ih h).imp_right (List.mem_cons_of_mem _)

theorem distinct_set (h : entries.distinct = true) (hbranch : branch.distinct = true) :
    (entries.set name branch).distinct = true := by
  induction entries with
  | nil => exact distinct_cons.mpr ⟨by simp, hbranch, rfl⟩
  | cons first rest ih =>
    obtain ⟨hnew, hfirst, hrest⟩ := distinct_cons.mp h
    rw [set]
    split
    · exact distinct_cons.mpr ⟨hnew, hbranch, hrest⟩
    · next hname =>
      refine distinct_cons.mpr ⟨?_, hfirst, ih hrest⟩
      intro entry hentry
      rcases mem_set hentry with heq | hmem
      · exact heq ▸ Ne.symm hname
      · exact hnew entry hmem

theorem distinct_remove (h : entries.distinct = true) : (entries.remove name).distinct = true := by
  induction entries with
  | nil => rfl
  | cons first rest ih =>
    obtain ⟨hnew, hfirst, hrest⟩ := distinct_cons.mp h
    rw [remove, List.filter_cons]
    split
    · exact distinct_cons.mpr ⟨fun entry hentry => hnew entry (List.mem_filter.mp hentry).1, hfirst, ih hrest⟩
    · exact ih hrest

theorem distinct_put (node : Node) (h : entries.distinct = true) (place : Place) :
    (entries.put node place).distinct = true := by
  induction place generalizing entries with
  | nil => exact h
  | cons name rest ih =>
    rw [put]
    split
    · exact distinct_set h node.distinct_branch
    · split
      · exact distinct_set h (ih rfl)
      · exact h
      · next below hbelow => exact distinct_set h (ih (distinct_of_lookup h hbelow))

theorem distinct_erase (h : entries.distinct = true) (place : Place) : (entries.erase place).distinct = true := by
  induction place generalizing entries with
  | nil => exact h
  | cons name rest ih =>
    rw [erase]
    split
    · exact distinct_remove h
    · split
      · next below hbelow => exact distinct_set h (ih (distinct_of_lookup h hbelow))
      · exact h

theorem nodup_names? (h : entries.distinct = true) {place : Place} {names : List String}
    (hnames : entries.names? place = some names) : names.Nodup := by
  induction place generalizing entries with
  | nil =>
    cases hnames
    exact nodup_names h
  | cons name rest ih =>
    rw [names?] at hnames
    split at hnames
    · next below hbelow => exact ih (distinct_of_lookup h hbelow) hnames
    · cases hnames

end Entries

/-! ## All files -/

mutual

/-- The files of a branch with their places, below `above`, which is reversed. -/
def Branch.filesBelow (above : Place) : Branch → List (Place × ByteArray)
  | .leaf content => [(above.reverse, content)]
  | .fork entries => Entries.filesBelow above entries

def Entries.filesBelow (above : Place) : List (String × Branch) → List (Place × ByteArray)
  | [] => []
  | (name, branch) :: rest => branch.filesBelow (name :: above) ++ Entries.filesBelow above rest

end

end TableLayout
