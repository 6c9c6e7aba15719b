import TableLayout.IndexedDefinitions
import TableLayout.Proofs.Document.ReaderRun
import TableLayout.Proofs.Selection

/-!
# The index of the columns

A look-up through the index finds what a search through the row does, and a column is pushed in the same way with an
index and without. So is every line of a document read, and the whole document with it.
-/

namespace TableLayout

open Text

namespace IndexedDefinitions
variable (d : IndexedDefinitions)

/-- The index never gives a place behind the end of the row. -/
theorem column?_eq (name : String) : d.column? name = .ok (d.toDefinitions.column? name) := by
  unfold column?
  cases hplace : d.places[name]? with
  | none =>
    have hmissing : name ∉ d.columns.map Column.name := by
      intro hmem
      obtain ⟨place, hname⟩ := List.mem_iff_getElem?.mp hmem
      rw [(d.agrees name place).mpr hname] at hplace
      cases hplace
    have hfind : d.toDefinitions.column? name = none := by
      simpa [Definitions.column?, toDefinitions] using hmissing
    rw [hfind]
  | some place =>
    have hname := (d.agrees name place).mp hplace
    rw [List.getElem?_map, Option.map_eq_some_iff] at hname
    obtain ⟨c, hc, hname⟩ := hname
    have hfind : d.toDefinitions.column? name = some c :=
      Definitions.column?_eq_some_iff.mpr ⟨List.mem_of_getElem? hc, hname⟩
    simp only [hc, hfind]

theorem column?_eq_some_iff {name : String} {c : Column} :
    d.column? name = .ok (some c) ↔ c ∈ d.columns ∧ c.name = name := by
  rw [d.column?_eq, Except.ok.injEq]
  exact Definitions.column?_eq_some_iff

theorem column?_eq_none_iff {name : String} :
    d.column? name = .ok none ↔ name ∉ d.columns.map Column.name := by
  rw [d.column?_eq, Except.ok.injEq]
  simp [Definitions.column?, toDefinitions]

/-! ## Pushing a column -/

section
variable {d} {c : Column}

theorem pushColumn_of_mem (hc : c.name ∈ d.columns.map Column.name) : d.pushColumn c = (.error c, d) :=
  dif_pos ((d.agrees.contains_iff c.name).mpr hc)

theorem pushColumn_of_not_mem (hc : c.name ∉ d.columns.map Column.name) :
    d.pushColumn c = (.ok (), d.withColumn c hc) :=
  dif_neg (mt (d.agrees.contains_iff c.name).mp hc)

theorem column?_withColumn (hc : c.name ∉ d.columns.map Column.name) (name : String) :
    (d.withColumn c hc).column? name = if name = c.name then .ok (some c) else d.column? name := by
  by_cases hname : name = c.name
  · rw [if_pos hname, column?_eq_some_iff]
    exact ⟨by simp [withColumn], hname.symm⟩
  · have hother : (decide (c.name = name)) = false := by simpa using Ne.symm hname
    rw [if_neg hname, column?_eq, column?_eq]
    simp [Definitions.column?, toDefinitions, withColumn, List.find?_append, hother]

end

theorem toDefinitions_pushColumn (c : Column) :
    d.toDefinitions.pushColumn c = (d.pushColumn c).1.map fun _ => (d.pushColumn c).2.toDefinitions := by
  by_cases hc : c.name ∈ d.columns.map Column.name
  · rw [pushColumn_of_mem hc]
    exact dif_pos (Definitions.isSome_column?_iff.mpr hc)
  · rw [pushColumn_of_not_mem hc]
    exact Reader.pushColumn_eq_ok.mpr ⟨hc, rfl⟩

end IndexedDefinitions

/-! ## Reading a document -/

namespace IndexedReader

def reader : IndexedReader → Reader
  | .start => .start
  | .columns defs => .columns defs.toDefinitions
  | .versions defs current => .versions defs.toDefinitions current

theorem toDefinitions_close (defs : IndexedDefinitions) (current : Option Version) :
    (close defs current).toDefinitions = Reader.close defs.toDefinitions current := by
  cases current <;> rfl

theorem reader_readColumn (defs : IndexedDefinitions) (line : List Char) :
    (readColumn defs line).map reader = Reader.readColumn defs.toDefinitions line := by
  unfold readColumn Reader.readColumn
  cases Column.read line with
  | error fault => rfl
  | ok c =>
    have hpush := defs.toDefinitions_pushColumn c
    simp only [bind, Except.bind, hpush]
    split <;> next hpushed =>
      simp [hpushed, reader, Except.map, pure, Except.pure, throw, throwThe, MonadExceptOf.throw]

/-- The index does not change what is read, nor which lines are refused. -/
theorem reader_step (r : IndexedReader) (line : List Char) : (r.step line).map reader = r.reader.step line := by
  cases r with
  | start =>
    simp only [step, reader, Reader.step, Reader.readHeading]
    split
    · rfl
    · split <;> rfl
  | columns defs =>
    simp only [step, reader, Reader.step]
    split
    · rfl
    · exact reader_readColumn defs line
  | versions defs current =>
    simp only [step, reader, Reader.step, Reader.readVersionLine]
    split
    · exact congrArg (fun defs => Except.ok (Reader.versions defs none)) (toDefinitions_close defs current)
    · cases VersionLine.read line <;> rfl

theorem reader_run (r : IndexedReader) (number : Nat) (ls : List (List Char)) :
    (r.run number ls).map reader = r.reader.run number ls := by
  induction ls generalizing r number with
  | nil => rfl
  | cons line ls ih =>
    rw [IndexedReader.run, Reader.run, ← r.reader_step]
    cases r.step (trimEnd line) with
    | error fault => rfl
    | ok r₁ => exact ih r₁ (number + 1)

theorem reader_finish (r : IndexedReader) : r.finish.map (·.toDefinitions) = r.reader.finish := by
  cases r with
  | start => rfl
  | columns defs => rfl
  | versions defs current => exact congrArg Except.ok (toDefinitions_close defs current)

end IndexedReader

namespace IndexedDefinitions

theorem read_toDefinitions (text : List Char) : (read text).map (·.toDefinitions) = Definitions.read text := by
  have hrun : (IndexedReader.run 1 .start (lines text)).map (·.reader) = Reader.run 1 .start (lines text) :=
    IndexedReader.reader_run .start 1 (lines text)
  unfold read Definitions.read
  rw [← hrun]
  cases IndexedReader.run 1 .start (lines text) with
  | error fault => rfl
  | ok r => exact r.reader_finish

/-- Documents are read in the same way with an index and without. However definitions with an index have come about,
one column has a name, a look-up finds it and never runs past the row, a new column comes last and changes no other
look-up, and a column whose name is taken is given back and changes nothing. -/
theorem columns_found : (∀ text, (read text).map (·.toDefinitions) = Definitions.read text) ∧
    ∀ d : IndexedDefinitions,
      (d.columns.map Column.name).Nodup ∧
      (∀ name, d.column? name = .ok (d.toDefinitions.column? name) ∧
        (∀ c, d.column? name = .ok (some c) ↔ c ∈ d.columns ∧ c.name = name) ∧
        (d.column? name = .ok none ↔ name ∉ d.columns.map Column.name)) ∧
      ∀ c, d.toDefinitions.pushColumn c =
          (d.pushColumn c).1.map (fun _ => (d.pushColumn c).2.toDefinitions) ∧
        (c.name ∉ d.columns.map Column.name → ∃ d', d.pushColumn c = (.ok (), d') ∧
          d'.columns = d.columns ++ [c] ∧ d'.versions = d.versions ∧
          ∀ name, d'.column? name = if name = c.name then .ok (some c) else d.column? name) ∧
        (c.name ∈ d.columns.map Column.name → d.pushColumn c = (.error c, d)) := by
  refine ⟨read_toDefinitions, fun d => ⟨d.agrees.nodup, fun name => ?_, fun c => ?_⟩⟩
  · exact ⟨d.column?_eq name, fun c => d.column?_eq_some_iff, d.column?_eq_none_iff⟩
  · refine ⟨d.toDefinitions_pushColumn c, fun hc => ?_, pushColumn_of_mem⟩
    exact ⟨d.withColumn c hc, pushColumn_of_not_mem hc, rfl, rfl, column?_withColumn hc⟩

/-- Two columns are read. A second `ID` is given back, and `Flags` comes behind them. -/
theorem columns_found_read :
    ∃ d d', read "COLUMNS\nint ID\nstring Name\n".toList = .ok d ∧
      d.columns = [⟨"ID", .int, none, true, none⟩, ⟨"Name", .string, none, true, none⟩] ∧
      d.column? "Name" = .ok (some ⟨"Name", .string, none, true, none⟩) ∧ d.column? "Flags" = .ok none ∧
      d.pushColumn ⟨"ID", .float, none, true, none⟩ = (.error ⟨"ID", .float, none, true, none⟩, d) ∧
      d.pushColumn ⟨"Flags", .int, none, true, none⟩ = (.ok (), d') ∧
      d'.columns = d.columns ++ [⟨"Flags", .int, none, true, none⟩] ∧
      d'.column? "Name" = .ok (some ⟨"Name", .string, none, true, none⟩) := by
  have hdefs : Definitions.read "COLUMNS\nint ID\nstring Name\n".toList =
      .ok { columns := [⟨"ID", .int, none, true, none⟩, ⟨"Name", .string, none, true, none⟩], versions := [] } := by
    decide +kernel
  obtain ⟨d, hread, hd⟩ := map_eq_ok.mp ((columns_found.1 _).trans hdefs)
  have hcolumns : d.columns = _ := congrArg Definitions.columns hd
  obtain ⟨-, hlook, hpush⟩ := columns_found.2 d
  have hname : d.column? "Name" = .ok (some ⟨"Name", .string, none, true, none⟩) :=
    ((hlook "Name").2.1 _).mpr ⟨by simp [hcolumns], rfl⟩
  obtain ⟨d', hpushed, hlonger, -, hfound⟩ := (hpush ⟨"Flags", .int, none, true, none⟩).2.1 (by simp [hcolumns])
  refine ⟨d, d', hread, hcolumns, hname, ?_, ?_, hpushed, hlonger, ?_⟩
  · exact (hlook "Flags").2.2.mpr (by simp [hcolumns])
  · exact (hpush _).2.2 (by simp [hcolumns])
  · rw [hfound, if_neg (by decide), hname]

end IndexedDefinitions

end TableLayout
