import TableLayout.Proofs.Text.Cutting
import TableLayout.Proofs.Traversal
import TableLayout.Url.Reader

/-!
# Segments of read URLs

Reading cuts a path at its slashes, so that no segment holds one, and leaves a special URL at least one segment.
Neither encoding a segment nor resolving the dots brings a slash in.
-/

namespace TableLayout

/-! ## Segments -/

def UrlPath.IsSegment (s : String) : Prop := '/' ∉ s.toList

namespace Percent

theorem slash_not_mem_encodeByte (b : UInt8) : '/' ∉ encodeByte b := by
  have hdigit : ∀ n < 16, '/' ≠ hexDigit n := by decide
  have hlt : b.toNat < 256 := b.toNat_lt
  simp [encodeByte, hdigit (b.toNat / 16) (by omega), hdigit (b.toNat % 16) (by omega)]

theorem slash_not_mem_encode (reserved : List Char) {s : List Char} (h : '/' ∉ s) : '/' ∉ encode reserved s := by
  unfold encode
  rw [List.mem_flatMap]
  rintro ⟨c, hc, hmem⟩
  split at hmem
  · obtain ⟨b, -, hb⟩ := List.mem_flatMap.mp hmem
    exact slash_not_mem_encodeByte b hb
  · exact h (List.mem_singleton.mp hmem ▸ hc)

end Percent

namespace UrlPath

theorem isSegment_of_mem_split {special : Bool} {s : List Char} {segment : String} (h : segment ∈ split special s) :
    IsSegment segment := by
  obtain ⟨item, hitem, rfl⟩ := List.mem_map.mp h
  unfold IsSegment
  rw [String.toList_ofList]
  apply Percent.slash_not_mem_encode
  intro hslash
  have := Text.eq_false_of_mem_splitOnP hitem '/' hslash
  simp [isSlash] at this

theorem split_ne_nil (special : Bool) (s : List Char) : split special s ≠ [] := by
  simp [split, List.splitOnP_ne_nil]

/-! ## Dots -/

theorem isSegment_empty : IsSegment "" := List.not_mem_nil

theorem eq_of_driveLetter? {s : List Char} {letter : Char} (h : driveLetter? s = some letter) :
    letter.isAlpha = true ∧ (s = [letter, ':'] ∨ s = [letter, '|']) := by
  unfold driveLetter? at h
  split at h
  · split at h
    · next hdrive =>
      cases h
      simpa using hdrive
    · cases h
  · cases h

theorem eq_of_isDrive {name : String} (h : isDrive name = true) :
    ∃ letter : Char, letter.isAlpha = true ∧ name.toList = [letter, ':'] := by
  unfold isDrive at h
  rw [Bool.and_eq_true, Option.isSome_iff_exists, beq_iff_eq] at h
  obtain ⟨⟨letter, hletter⟩, hlast⟩ := h
  obtain ⟨halpha, hname | hname⟩ := eq_of_driveLetter? hletter
  · exact ⟨letter, halpha, hname⟩
  · rw [hname] at hlast
    cases hlast

theorem ne_of_isAlpha {c letter : Char} (h : letter.isAlpha = true) (hc : c.isAlpha = false) : c ≠ letter := by
  rintro rfl
  rw [h] at hc
  cases hc

theorem isSegment_of_isDrive {name : String} (h : isDrive name = true) : IsSegment name := by
  obtain ⟨letter, halpha, hname⟩ := eq_of_isDrive h
  simp [IsSegment, hname, ne_of_isAlpha halpha (c := '/') (by decide)]

theorem isSegment_nameDrive {s : String} (h : IsSegment s) : IsSegment (nameDrive s) := by
  unfold nameDrive
  split
  · next letter hletter =>
    simp [IsSegment, ne_of_isAlpha (eq_of_driveLetter? hletter).1 (c := '/') (by decide)]
  · exact h

theorem leave_subset (above : List String) : leave above ⊆ above := by
  cases above with
  | nil => exact List.Subset.refl _
  | cons s above =>
    rw [leave]
    split
    · exact List.Subset.refl _
    · exact List.subset_cons_self s above

section
variable {isFile : Bool} {above segments : List String}

theorem isSegment_resolveDots (habove : ∀ s ∈ above, IsSegment s) (h : ∀ s ∈ segments, IsSegment s) :
    ∀ s ∈ resolveDots isFile above segments, IsSegment s := by
  induction segments generalizing above with
  | nil => simpa [resolveDots] using habove
  | cons s rest ih =>
    have hleave : ∀ s ∈ leave above, IsSegment s := fun s hs => habove s (leave_subset above hs)
    have hempty : ∀ {above : List String}, (∀ s ∈ above, IsSegment s) →
        ∀ s ∈ (if rest.isEmpty then "" :: above else above), IsSegment s := by
      intro above habove
      split
      · exact List.forall_mem_cons.mpr ⟨isSegment_empty, habove⟩
      · exact habove
    obtain ⟨hs, hrest⟩ := List.forall_mem_cons.mp h
    unfold resolveDots
    split
    · exact ih (hempty hleave) hrest
    · split
      · exact ih (hempty habove) hrest
      · refine ih (List.forall_mem_cons.mpr ⟨?_, habove⟩) hrest
        split
        · exact isSegment_nameDrive hs
        · exact hs

theorem resolveDots_ne_nil (h : segments ≠ [] ∨ above ≠ []) : resolveDots isFile above segments ≠ [] := by
  induction segments generalizing above with
  | nil => simpa [resolveDots] using h
  | cons s rest ih =>
    -- dots at the end leave an empty segment
    have hempty : ∀ above : List String, rest ≠ [] ∨ (if rest.isEmpty then "" :: above else above) ≠ [] := by
      intro above
      cases rest with
      | nil => exact .inr (by simp)
      | cons _ _ => exact .inl (by simp)
    unfold resolveDots
    split
    · exact ih (hempty _)
    · split
      · exact ih (hempty _)
      · exact ih (.inr (by simp))

theorem dropEmpty_suffix (segments : List String) : dropEmpty segments <:+ segments := by
  fun_induction dropEmpty segments with
  | case1 s rest ih => exact ih.trans (List.suffix_cons _ _)
  | case2 segments _ => exact List.suffix_refl _

theorem dropEmpty_ne_nil (h : segments ≠ []) : dropEmpty segments ≠ [] := by
  fun_induction dropEmpty segments with
  | case1 s rest ih => exact ih (by simp)
  | case2 segments _ => exact h

end

/-- What reading ensures of a path, which is neither opaque nor empty in a special URL. -/
inductive IsRead (special : Bool) : UrlPath → Prop
  | opaquePath (hspecial : special = false) (text : String) : IsRead special (.opaquePath text)
  | segments {segments : List String} (h : ∀ s ∈ segments, IsSegment s) (hne : special = true → segments ≠ []) :
      IsRead special (.segments segments)

theorem isRead_resolveDots (special slashes isFile : Bool) (s : List Char) :
    IsRead special (.segments (resolveDots isFile [] (split slashes s))) :=
  .segments (isSegment_resolveDots (by simp) fun _ => isSegment_of_mem_split)
    fun _ => resolveDots_ne_nil (.inl (split_ne_nil slashes s))

theorem IsRead.dropEmpty {special : Bool} {segments : List String} (h : IsRead special (.segments segments)) :
    IsRead special (.segments (dropEmpty segments)) := by
  cases h with
  | segments h hne =>
    exact .segments (fun s hs => h s ((dropEmpty_suffix segments).subset hs))
      fun hspecial => dropEmpty_ne_nil (hne hspecial)

end UrlPath

/-! ## Reading -/

namespace Url

def HasReadPath (u : Url) : Prop := u.path.IsRead (isSpecial u.scheme)

theorem HasReadPath.isSegment {u : Url} {parts : List String} (h : u.HasReadPath) (hpath : u.path = .segments parts) :
    ∀ s ∈ parts, UrlPath.IsSegment s := by
  unfold HasReadPath at h
  rw [hpath] at h
  cases h with
  | segments hparts _ => exact hparts

theorem HasReadPath.ne_nil {u : Url} {parts : List String} (h : u.HasReadPath) (hpath : u.path = .segments parts)
    (hspecial : isSpecial u.scheme = true) : parts ≠ [] := by
  unfold HasReadPath at h
  rw [hpath] at h
  cases h with
  | segments _ hne => exact hne hspecial

theorem hasReadPath_finish (scheme : String) (authority : Option Authority) (s : List Char) :
    (finish scheme authority s).HasReadPath := by
  unfold HasReadPath finish
  dsimp only
  split
  · next h =>
    refine .segments (by simp) fun hspecial => ?_
    simp [hspecial] at h
  · exact UrlPath.isRead_resolveDots ..

theorem hasReadPath_readLocal (s : List Char) : (readLocal s).HasReadPath :=
  (UrlPath.isRead_resolveDots ..).dropEmpty

theorem hasReadPath_readRemote (host : Host) (s : List Char) : (readRemote host s).HasReadPath :=
  (UrlPath.isRead_resolveDots ..).dropEmpty

variable {s : List Char} {u : Url}

theorem hasReadPath_readFromHost (h : readFromHost s = .ok u) : u.HasReadPath := by
  unfold readFromHost at h
  dsimp only at h
  split at h
  · cases h
    exact hasReadPath_readLocal s
  · split at h <;> obtain ⟨host, -, h⟩ := bind_eq_ok.mp h
    all_goals
      split at h <;> cases h
      · exact hasReadPath_readLocal _
      · exact hasReadPath_readRemote ..

theorem hasReadPath_readFile (h : readFile s = .ok u) : u.HasReadPath := by
  unfold readFile at h
  split at h
  · split at h
    · split at h
      · exact hasReadPath_readFromHost h
      · cases h
        exact hasReadPath_readLocal _
    · cases h
      exact hasReadPath_readLocal _
  · cases h
    exact hasReadPath_readLocal _

theorem hasReadPath_readFromAuthority {scheme : String} (h : readFromAuthority scheme s = .ok u) : u.HasReadPath := by
  unfold readFromAuthority at h
  obtain ⟨⟨authority, rest⟩, -, h⟩ := bind_eq_ok.mp h
  cases h
  exact hasReadPath_finish ..

theorem hasReadPath_readOther {scheme : String} (hspecial : isSpecial scheme = false)
    (h : readOther scheme s = .ok u) : u.HasReadPath := by
  unfold readOther at h
  split at h
  · exact hasReadPath_readFromAuthority h
  · cases h
    exact hasReadPath_finish ..
  · cases h
    exact .opaquePath hspecial _

theorem hasReadPath_read {text : String} (h : read text = .ok u) : u.HasReadPath := by
  unfold read at h
  split at h
  · cases h
  · next scheme rest _ =>
    split at h
    · exact hasReadPath_readFile h
    · split at h
      · exact hasReadPath_readFromAuthority h
      · next hspecial => exact hasReadPath_readOther (by simpa using hspecial) h

end Url

end TableLayout
