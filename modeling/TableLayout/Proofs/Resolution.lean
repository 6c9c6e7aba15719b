import Mathlib.Order.Bounds.Basic
import TableLayout.Proofs.Appending
import TableLayout.Proofs.Selection

/-!
# Which version is resolved

The first version for a build is chosen, and the last one of all when there is no build or no version for it. Only
then is the hash looked at, so that a version without one is not passed over. A version that is appended is chosen
exactly when nothing before it is for the build.
-/

namespace TableLayout

def Version.IsFor (v : Version) (b : Build) : Prop :=
  b ∈ v.builds ∨ ∃ r ∈ v.ranges, r.min ≤ b ∧ b ≤ r.max

theorem Version.covers_iff {v : Version} {b : Build} : v.covers b = true ↔ v.IsFor b := by
  simp [covers, IsFor, BuildRange.contains]

namespace Definitions

def Serves (d : Definitions) (build : Option Build) : Prop :=
  ∃ b ∈ build, ∃ v ∈ d.versions, v.IsFor b

/-- The position of the version to compile. -/
inductive Chosen (d : Definitions) (build : Option Build) (i : Nat) : Prop
  | first {b : Build} (hbuild : build = some b)
      (hleast : IsLeast {j | ∃ v, d.versions[j]? = some v ∧ v.IsFor b} i) : Chosen d build i
  | last (hnone : ¬d.Serves build) (hlast : i + 1 = d.versions.length) : Chosen d build i

section
variable {d : Definitions} {build : Option Build}

theorem Chosen.serves_of_first {b : Build} {i : Nat} (hbuild : build = some b)
    (hleast : IsLeast {j | ∃ v, d.versions[j]? = some v ∧ v.IsFor b} i) : d.Serves build := by
  obtain ⟨v, hv, hfor⟩ := hleast.1
  exact ⟨b, hbuild, v, List.mem_of_getElem? hv, hfor⟩

theorem Chosen.eq {i j : Nat} (hi : d.Chosen build i) (hj : d.Chosen build j) : i = j := by
  cases hi with
  | first hbuild hleast =>
    cases hj with
    | first hbuild' hleast' =>
      rw [hbuild] at hbuild'
      cases hbuild'
      exact hleast.unique hleast'
    | last hnone _ => exact absurd (serves_of_first hbuild hleast) hnone
  | last hnone hlast =>
    cases hj with
    | first hbuild hleast => exact absurd (serves_of_first hbuild hleast) hnone
    | last _ hlast' => omega

theorem chosen_selectedIndex (build : Option Build) (hne : d.versions ≠ []) :
    d.Chosen build (d.selectedIndex build) := by
  have hlast : d.versions.length - 1 + 1 = d.versions.length := by
    have := List.length_pos_of_ne_nil hne
    omega
  unfold selectedIndex
  cases build with
  | none => exact .last (by simp [Serves]) hlast
  | some b =>
    rw [Option.bind_some]
    cases hi : d.versions.findIdx? (·.covers b) with
    | none =>
      apply Chosen.last _ hlast
      rintro ⟨b', hb, v, hv, hfor⟩
      cases hb
      have := List.findIdx?_eq_none_iff.mp hi v hv
      rw [Version.covers_iff.mpr hfor] at this
      cases this
    | some i =>
      obtain ⟨hlt, hcovers, hbefore⟩ := List.findIdx?_eq_some_iff_getElem.mp hi
      apply Chosen.first rfl
      constructor
      · exact ⟨d.versions[i], List.getElem?_eq_getElem hlt, Version.covers_iff.mp hcovers⟩
      · intro j hj
        obtain ⟨v, hv, hfor⟩ := hj
        obtain ⟨_, rfl⟩ := List.getElem?_eq_some_iff.mp hv
        by_contra hji
        exact hbefore j (Nat.lt_of_not_le hji) (Version.covers_iff.mpr hfor)

theorem selected?_eq_some_iff {v : Version} :
    d.selected? build = some v ↔ ∃ i, d.Chosen build i ∧ d.versions[i]? = some v := by
  constructor
  · intro h
    have hne : d.versions ≠ [] := List.ne_nil_of_mem (mem_of_selected? h)
    rw [← getElem?_selectedIndex] at h
    exact ⟨_, chosen_selectedIndex build hne, h⟩
  · rintro ⟨i, hi, hv⟩
    have hne : d.versions ≠ [] := List.ne_nil_of_mem (List.mem_of_getElem? hv)
    rw [← getElem?_selectedIndex, ← hi.eq (chosen_selectedIndex build hne)]
    exact hv

theorem selected?_eq_none_iff (build : Option Build) : d.selected? build = none ↔ d.versions = [] := by
  constructor
  · intro h
    by_contra hne
    rw [← getElem?_selectedIndex, List.getElem?_eq_none_iff] at h
    cases chosen_selectedIndex build hne with
    | first _ hleast =>
      obtain ⟨v, hv, -⟩ := hleast.1
      rw [List.getElem?_eq_none h] at hv
      cases hv
    | last _ hlast => omega
  · intro h
    unfold selected? covering?
    cases build <;> simp [h]

theorem resolve_eq_error_iff {fault : Fault} : d.resolve build = .error fault ↔
    (d.versions = [] ∧ fault = .noVersions) ∨
      ∃ i v, d.Chosen build i ∧ d.versions[i]? = some v ∧ v.layoutHashes = [] ∧ fault = .noLayoutHash build := by
  have hchosen : (∃ i v, d.Chosen build i ∧ d.versions[i]? = some v ∧ v.layoutHashes = [] ∧
      fault = .noLayoutHash build) ↔
        ∃ v, d.selected? build = some v ∧ v.layoutHashes = [] ∧ fault = .noLayoutHash build := by
    rw [exists_comm]
    simp only [selected?_eq_some_iff, ← and_assoc, exists_and_right]
  rw [hchosen, ← selected?_eq_none_iff build]
  unfold resolve
  cases d.selected? build with
  | none => simp [@eq_comm _ fault]
  | some v => cases hv : v.layoutHashes <;> simp [Version.canonicalHash?, hv, @eq_comm _ fault]

/-! ## One version more -/

theorem selected?_pushVersion (h : ¬d.Serves build) (v : Version) : (d.pushVersion v).selected? build = some v := by
  have hnone : d.covering? build = none := by
    unfold covering?
    rw [Option.bind_eq_none_iff]
    intro b hb
    rw [List.find?_eq_none]
    intro w hw hcovers
    exact h ⟨b, hb, w, hw, Version.covers_iff.mp hcovers⟩
  unfold selected? covering? pushVersion at *
  cases build with
  | none => simp
  | some b =>
    rw [Option.bind_some] at hnone ⊢
    rw [List.find?_append, hnone]
    by_cases hv : v.covers b = true <;> simp [hv]

end

/-- With a version at all there is one chosen position. Its version is resolved by its first hash; resolving fails, with
one code, exactly without versions and for a chosen version without a hash. One version more changes nothing for a
build that an earlier version is for, and else is resolved itself. -/
theorem resolve_chosen (d : Definitions) (build : Option Build) :
    (d.versions ≠ [] → ∃! i, d.Chosen build i) ∧
    (∀ v hash, d.resolve build = .ok (v, hash) ↔
      ∃ i, d.Chosen build i ∧ d.versions[i]? = some v ∧ v.layoutHashes.head? = some hash) ∧
    (∀ fault, d.resolve build = .error fault ↔
      (d.versions = [] ∧ fault = .noVersions) ∨
        ∃ i v, d.Chosen build i ∧ d.versions[i]? = some v ∧ v.layoutHashes = [] ∧ fault = .noLayoutHash build) ∧
    (∀ fault, d.resolve build = .error fault → fault.code.label = "D2C0100") ∧
    ∀ v, (d.Serves build → (d.pushVersion v).resolve build = d.resolve build) ∧
      (¬d.Serves build → (d.pushVersion v).resolve build =
        match v.layoutHashes with
        | [] => .error (.noLayoutHash build)
        | hash :: _ => .ok (v, hash)) := by
  refine ⟨?_, ?_, fun fault => resolve_eq_error_iff, ?_, fun v => ⟨?_, ?_⟩⟩
  · intro hne
    exact ⟨_, chosen_selectedIndex build hne, fun i hi => hi.eq (chosen_selectedIndex build hne)⟩
  · intro v hash
    rw [resolve_eq_ok, selected?_eq_some_iff, Version.canonicalHash?]
    simp only [exists_and_right, ← and_assoc]
  · intro fault h
    rcases resolve_eq_error_iff.mp h with ⟨-, rfl⟩ | ⟨i, v, -, -, -, rfl⟩ <;> rfl
  · rintro ⟨b, hb, w, hw, hfor⟩
    cases hb
    exact resolve_pushVersion ⟨w, hw, Version.covers_iff.mpr hfor⟩ v
  · intro h
    unfold resolve
    rw [selected?_pushVersion h]
    cases hv : v.layoutHashes <;> simp [Version.canonicalHash?, hv]

def harbours : Definitions :=
  .ofVersions
    [⟨["A1"], [⟨1, 0, 0, 1⟩], [], [], []⟩, ⟨[], [], [⟨⟨1, 0, 0, 1⟩, ⟨2, 0, 0, 0⟩⟩], [], []⟩,
     ⟨["C3"], [], [⟨⟨1, 0, 0, 1⟩, ⟨3, 0, 0, 0⟩⟩], [], []⟩]

def harboursNext : Version := ⟨["D4", "D5"], [⟨1, 5, 0, 0⟩], [], [], []⟩

/-- The version without a hash is in the way of all behind it, but not of the last one for a build of none. -/
theorem resolve_chosen_harbours : harbours.versions ≠ [] ∧
    harbours.Serves (some ⟨1, 5, 0, 0⟩) ∧ ¬harbours.Serves (some ⟨9, 0, 0, 0⟩) ∧
    harbours.resolve (some ⟨1, 5, 0, 0⟩) = .error (.noLayoutHash (some ⟨1, 5, 0, 0⟩)) ∧
    (∃ i v, harbours.Chosen (some ⟨1, 5, 0, 0⟩) i ∧ harbours.versions[i]? = some v ∧ v.layoutHashes = []) ∧
    (∃! i, harbours.Chosen (some ⟨9, 0, 0, 0⟩) i) ∧
    (harbours.pushVersion harboursNext).resolve (some ⟨1, 5, 0, 0⟩) =
      .error (.noLayoutHash (some ⟨1, 5, 0, 0⟩)) ∧
    (harbours.pushVersion harboursNext).resolve (some ⟨9, 0, 0, 0⟩) = .ok (harboursNext, "D4") := by
  have hne : harbours.versions ≠ [] := List.cons_ne_nil _ _
  have hcovers : ∃ v ∈ harbours.versions, v.covers ⟨1, 5, 0, 0⟩ = true := by decide
  have huncovered : ∀ v ∈ harbours.versions, v.covers ⟨9, 0, 0, 0⟩ = false := by decide
  have hserves : harbours.Serves (some ⟨1, 5, 0, 0⟩) := by
    obtain ⟨v, hv, hb⟩ := hcovers
    exact ⟨_, rfl, v, hv, Version.covers_iff.mp hb⟩
  have hunserved : ¬harbours.Serves (some ⟨9, 0, 0, 0⟩) := by
    rintro ⟨b, hb, v, hv, hfor⟩
    cases hb
    exact absurd (Version.covers_iff.mpr hfor) (by simp [huncovered v hv])
  have hresolve : harbours.resolve (some ⟨1, 5, 0, 0⟩) = .error (.noLayoutHash (some ⟨1, 5, 0, 0⟩)) := by decide
  obtain ⟨-, -, hfault, -, happend⟩ := resolve_chosen harbours (some ⟨1, 5, 0, 0⟩)
  obtain ⟨hunique, -, -, -, hlast⟩ := resolve_chosen harbours (some ⟨9, 0, 0, 0⟩)
  refine ⟨hne, hserves, hunserved, hresolve, ?_, hunique hne, ?_, (hlast harboursNext).2 hunserved⟩
  · rcases (hfault _).mp hresolve with ⟨hnil, -⟩ | ⟨i, v, hi, hv, hhash, -⟩
    · exact absurd hnil hne
    · exact ⟨i, v, hi, hv, hhash⟩
  · rw [(happend harboursNext).1 hserves, hresolve]

end Definitions

end TableLayout
