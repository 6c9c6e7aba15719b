import TableLayout.Proofs.Url.Segments

/-!
# Joining a file name

A file takes the place of what follows the last slash of a path, wherever that slash came from. Only a drive stays:
a file goes below one that is the whole path, and right behind one that ends a longer path.
-/

namespace TableLayout

/-! ## Paths as texts -/

namespace UrlPath

theorem text_append (front back : List String) :
    (segments (front ++ back)).text = (segments front).text ++ (segments back).text := by
  simp only [text, List.map_append, String.join_append]

theorem text_singleton (s : String) : (segments [s]).text = "/" ++ s := by simp [text]

theorem text_append_singleton (above : List String) (last : String) :
    (segments (above ++ [last])).text = (segments above).text ++ "/" ++ last := by
  rw [text_append, text_singleton, String.append_assoc]

theorem append_slash_ne_empty (dir name : String) : dir ++ "/" ++ name ≠ "" := by
  intro h
  have hlist := congrArg String.toList h
  simp at hlist

theorem text_ne_empty {parts : List String} (h : parts ≠ []) : (segments parts).text ≠ "" := by
  rcases List.eq_nil_or_concat' parts with rfl | ⟨above, last, rfl⟩
  · exact absurd rfl h
  · rw [text_append_singleton]
    exact append_slash_ne_empty _ _

theorem IsSegment.append_inj {dir dir' name name' : String} (hname : IsSegment name) (hname' : IsSegment name')
    (h : dir ++ "/" ++ name = dir' ++ "/" ++ name') : dir = dir' ∧ name = name' := by
  have hlists : dir.toList ++ '/' :: name.toList = dir'.toList ++ '/' :: name'.toList := by
    simpa using congrArg String.toList h
  obtain ⟨hdir, hlast⟩ := Text.append_cons_inj_last hname hname' hlists
  exact ⟨String.toList_inj.mp hdir, String.toList_inj.mp hlast⟩

def EndsInSlash (p : UrlPath) : Prop := ∃ dir, p.text = dir ++ "/"

theorem endsInSlash_iff {p : UrlPath} {dir name : String} (hp : p.text = dir ++ "/" ++ name) (hname : IsSegment name) :
    p.EndsInSlash ↔ name = "" := by
  constructor
  · rintro ⟨dir', hdir'⟩
    have hsame : dir ++ "/" ++ name = dir' ++ "/" ++ "" := by rw [← hp, hdir', String.append_empty]
    exact (hname.append_inj isSegment_empty hsame).2
  · rintro rfl
    exact ⟨dir, by rw [hp, String.append_empty]⟩

end UrlPath

/-! ## Drives -/

namespace Url

def IsDrive (scheme name : String) : Prop := scheme = "file" ∧ UrlPath.isDrive name = true

instance (scheme name : String) : Decidable (IsDrive scheme name) := inferInstanceAs (Decidable (_ ∧ _))

theorem replaceLast_append_singleton (scheme : String) (above : List String) (last file : String) :
    replaceLast scheme (above ++ [last]) file =
      if IsDrive scheme last then if above = [] then [last, file] else above ++ [last ++ file]
      else above ++ [file] := by
  unfold replaceLast
  rw [List.getLast?_concat, List.dropLast_concat]
  by_cases hdrive : IsDrive scheme last
  · rw [if_pos hdrive]
    simp [hdrive.1, hdrive.2]
  · have hname : ¬(scheme = "file" ∧ UrlPath.isDrive last = true) := hdrive
    rw [if_neg hdrive]
    simp [hname]

/-! ## Places -/

/-- Where a file goes that is joined to a URL. -/
inductive Puts (u : Url) (file : String) : String → Prop
  | root (hpath : u.path.text = "") : Puts u file ("/" ++ file)
  | instead {dir name : String} (hpath : u.path.text = dir ++ "/" ++ name) (hname : UrlPath.IsSegment name)
      (hdrive : ¬IsDrive u.scheme name) : Puts u file (dir ++ "/" ++ file)
  | below {drive : String} (hpath : u.path.text = "/" ++ drive) (hdrive : IsDrive u.scheme drive) :
      Puts u file ("/" ++ drive ++ "/" ++ file)
  | behind {dir drive : String} (hpath : u.path.text = dir ++ "/" ++ drive) (hdir : dir ≠ "")
      (hdrive : IsDrive u.scheme drive) : Puts u file (dir ++ "/" ++ drive ++ file)

theorem puts_replaceLast {u : Url} {parts : List String} (hpath : u.path = .segments parts)
    (hparts : ∀ s ∈ parts, UrlPath.IsSegment s) (file : String) :
    u.Puts file (UrlPath.segments (replaceLast u.scheme parts file)).text := by
  rcases List.eq_nil_or_concat' parts with rfl | ⟨above, last, rfl⟩
  · exact .root (by rw [hpath]; rfl)
  · have htext : u.path.text = (UrlPath.segments above).text ++ "/" ++ last := by
      rw [hpath, UrlPath.text_append_singleton]
    have hlast : UrlPath.IsSegment last := hparts last (by simp)
    rw [replaceLast_append_singleton]
    by_cases hdrive : IsDrive u.scheme last
    · rw [if_pos hdrive]
      by_cases habove : above = []
      · have hfile : (UrlPath.segments [last, file]).text = "/" ++ last ++ "/" ++ file := by
          rw [← UrlPath.text_singleton last]
          exact UrlPath.text_append_singleton [last] file
        rw [if_pos habove, hfile]
        exact .below (by rw [hpath, habove]; exact UrlPath.text_singleton last) hdrive
      · rw [if_neg habove, UrlPath.text_append_singleton, ← String.append_assoc]
        exact .behind htext (UrlPath.text_ne_empty habove) hdrive
    · rw [if_neg hdrive, UrlPath.text_append_singleton]
      exact .instead htext hlast hdrive

def EndsInDrive (u : Url) : Prop :=
  ∃ dir drive, dir ≠ "" ∧ u.path.text = dir ++ "/" ++ drive ∧ IsDrive u.scheme drive

section
variable {u : Url}

theorem endsInDrive_iff {dir name : String} (hpath : u.path.text = dir ++ "/" ++ name)
    (hname : UrlPath.IsSegment name) : u.EndsInDrive ↔ dir ≠ "" ∧ IsDrive u.scheme name := by
  constructor
  · rintro ⟨dir', drive, hdir, hpath', hdrive⟩
    rw [hpath] at hpath'
    obtain ⟨rfl, rfl⟩ := hname.append_inj (UrlPath.isSegment_of_isDrive hdrive.2) hpath'
    exact ⟨hdir, hdrive⟩
  · rintro ⟨hdir, hdrive⟩
    exact ⟨dir, name, hdir, hpath, hdrive⟩

theorem isDrive_empty (scheme : String) : ¬IsDrive scheme "" := by
  rintro ⟨-, h⟩
  cases h

theorem Puts.eq_append_iff {file path : String} (h : u.Puts file path) :
    path = u.path.text ++ file ↔ u.path.EndsInSlash ∨ u.EndsInDrive := by
  cases h with
  | root hpath =>
    have hslash : ¬u.path.EndsInSlash := by
      rintro ⟨dir, hdir⟩
      exact UrlPath.append_slash_ne_empty dir "" (by rw [String.append_empty, ← hdir, hpath])
    have hdrive : ¬u.EndsInDrive := by
      rintro ⟨dir, drive, -, hdir, -⟩
      exact UrlPath.append_slash_ne_empty dir drive (by rw [← hdir, hpath])
    simp [hslash, hdrive, hpath]
  | @instead dir name hpath hname hdrive =>
    rw [UrlPath.endsInSlash_iff hpath hname, endsInDrive_iff hpath hname, hpath, String.append_left_inj]
    have hreplaced : dir ++ "/" ++ "" = dir ++ "/" ++ name ↔ "" = name := String.append_right_inj _
    rw [String.append_empty] at hreplaced
    simp [hdrive, hreplaced, eq_comm]
  | @below drive hpath hdrive =>
    have hname := UrlPath.isSegment_of_isDrive hdrive.2
    have hpath' : u.path.text = "" ++ "/" ++ drive := hpath
    rw [UrlPath.endsInSlash_iff hpath' hname, endsInDrive_iff hpath' hname, hpath, String.append_left_inj]
    have hne : drive ≠ "" := by
      rintro rfl
      exact isDrive_empty _ hdrive
    simp [hne]
  | behind hpath hdir hdrive =>
    have hends := (endsInDrive_iff hpath (UrlPath.isSegment_of_isDrive hdrive.2)).mpr ⟨hdir, hdrive⟩
    simp [hends, hpath]

end

end Url

end TableLayout
