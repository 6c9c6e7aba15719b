import TableLayout.Build
import TableLayout.Proofs.Text.Cutting
import TableLayout.Proofs.Text.Numeral
import TableLayout.Proofs.Traversal

/-!
# Builds are read back from their texts

The text of a build is four numbers between dots. It holds no hyphen, so that the text of a range is cut
between its two builds, and the text of a build is never that of a range.
-/

namespace TableLayout

open Text

namespace Build

def digits (b : Build) : List (List Char) :=
  [b.expansion, b.major, b.minor, b.number].map fun n => Nat.toDigits 10 n.toNat

theorem toList_text (b : Build) : b.text.toList = ['.'].intercalate b.digits := by
  simp [text, digits, List.intercalate_cons_cons, toString]

theorem mem_text {b : Build} {c : Char} (h : c ∈ b.text.toList) : c.isDigit = true ∨ c = '.' := by
  rw [toList_text] at h
  rcases mem_of_mem_intercalate h with h | ⟨part, hpart, hc⟩
  · exact .inr (List.mem_singleton.mp h)
  · obtain ⟨n, -, rfl⟩ := List.mem_map.mp hpart
    exact .inl (isDigit_of_mem_toDigits hc)

theorem isBlank_of_mem_text {b : Build} {c : Char} (h : c ∈ b.text.toList) : isBlank c = false := by
  rcases mem_text h with h | rfl
  · exact isBlank_of_isDigit h
  · decide

theorem not_mem_text {b : Build} {c : Char} (hd : c.isDigit = false) (hdot : c ≠ '.') :
    c ∉ b.text.toList := by
  intro h
  rcases mem_text h with h | h
  · rw [hd] at h
    cases h
  · exact hdot h

theorem text_ne_nil (b : Build) : b.text.toList ≠ [] := by
  rw [toList_text]
  simp [digits, List.intercalate_cons_cons]

theorem splitOn_text (b : Build) : b.text.toList.splitOn '.' = b.digits := by
  rw [toList_text]
  refine List.splitOn_intercalate '.' (fun part hpart hdot => ?_) (by simp [digits])
  obtain ⟨n, -, rfl⟩ := List.mem_map.mp hpart
  exact absurd (isDigit_of_mem_toDigits hdot) (by decide)

theorem readComponent_eq_ok {whole part : List Char} {n : UInt32} :
    readComponent whole part = .ok n ↔ readWord part = some n := by
  unfold readComponent
  cases readWord part with
  | none => simp
  | some m => simp

theorem read_eq_ok {s : List Char} {b : Build} : read s = .ok b ↔ ∃ x y z n, (trim s).splitOn '.' = [x, y, z, n] ∧
    readWord x = some b.expansion ∧ readWord y = some b.major ∧ readWord z = some b.minor ∧
      readWord n = some b.number := by
  unfold read
  split
  · next x y z n hparts =>
    simp only [bind_eq_ok, readComponent_eq_ok, pure, Except.pure, Except.ok.injEq]
    constructor
    · intro ⟨expansion, hx, major, hy, minor, hz, number, hn, h⟩
      exact ⟨x, y, z, n, hparts, h ▸ hx, h ▸ hy, h ▸ hz, h ▸ hn⟩
    · intro ⟨x', y', z', n', hparts', hx, hy, hz, hn⟩
      rw [hparts'] at hparts
      cases hparts
      exact ⟨_, hx, _, hy, _, hz, _, hn, rfl⟩
  · next hparts =>
    constructor
    · intro h
      cases h
    · intro ⟨x, y, z, n, hfour, _⟩
      exact absurd hfour (hparts x y z n)

theorem hyphen_not_mem_of_read {s : List Char} {b : Build} (h : read s = .ok b) : '-' ∉ s := by
  obtain ⟨x, y, z, n, hparts, hx, hy, hz, hn⟩ := read_eq_ok.mp h
  have hjoined : ['.'].intercalate [x, y, z, n] = trim s := by
    rw [← hparts, List.intercalate_splitOn]
  intro hmem
  have htrim : '-' ∈ trim s := mem_trim (by decide) hmem
  rw [← hjoined] at htrim
  rcases mem_of_mem_intercalate htrim with hdot | ⟨part, hpart, hyphen⟩
  · cases List.mem_singleton.mp hdot
  · have hnumeral : ∃ k, readWord part = some k := by
      simp only [List.mem_cons, List.not_mem_nil, or_false] at hpart
      rcases hpart with rfl | rfl | rfl | rfl
      · exact ⟨_, hx⟩
      · exact ⟨_, hy⟩
      · exact ⟨_, hz⟩
      · exact ⟨_, hn⟩
    obtain ⟨k, hk⟩ := hnumeral
    exact (readWord_eq_some_iff.mp hk).not_mem (by decide) (by decide) hyphen

theorem read_text (b : Build) : read b.text.toList = .ok b := by
  have component : ∀ n : UInt32,
      readComponent b.text.toList (Nat.toDigits 10 n.toNat) = .ok n := fun n => by
    rw [readComponent, readWord_toDigits]
  unfold read
  rw [trim_of_no_blank fun c => isBlank_of_mem_text, splitOn_text]
  simp only [digits, List.map_cons, List.map_nil, component]
  rfl

end Build

namespace BuildRange

theorem toList_text (r : BuildRange) : r.text.toList = r.min.text.toList ++ '-' :: r.max.text.toList := by
  simp [text, toString]

theorem mem_text {r : BuildRange} {c : Char} (h : c ∈ r.text.toList) :
    c.isDigit = true ∨ c = '.' ∨ c = '-' := by
  rw [toList_text] at h
  rcases List.mem_append.mp h with h | h
  · exact (Build.mem_text h).imp_right .inl
  · rcases List.mem_cons.mp h with h | h
    · exact .inr (.inr h)
    · exact (Build.mem_text h).imp_right .inl

theorem isBlank_of_mem_text {r : BuildRange} {c : Char} (h : c ∈ r.text.toList) :
    isBlank c = false := by
  rcases mem_text h with h | rfl | rfl
  · exact isBlank_of_isDigit h
  · decide
  · decide

theorem hyphen_mem_of_read {s : List Char} {r : BuildRange} (h : read s = .ok r) : '-' ∈ s := by
  unfold read at h
  split at h
  · next low high hcut =>
    rw [(cutAt_eq_some.mp hcut).1]
    simp
  · cases h

theorem read_text (r : BuildRange) : read r.text.toList = .ok r := by
  unfold read
  rw [toList_text, cutAt_append (Build.not_mem_text (by decide) (by decide))]
  simp only [Build.read_text]
  rfl

end BuildRange

end TableLayout
