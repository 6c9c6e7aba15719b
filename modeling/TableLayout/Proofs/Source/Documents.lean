import TableLayout.Proofs.Files.Folders
import TableLayout.Proofs.Text.Bytes
import TableLayout.Proofs.Text.Numeral
import TableLayout.Proofs.Url.Joining
import TableLayout.Source

/-!
# The documents of an origin

Asking an origin changes no file. An origin over local files reads all of its documents from one folder, each
from the file that its table's name gives, and behind a drive if the base URL ends in one; the others have none.
-/

namespace TableLayout

open Text

/-! ## File names -/

theorem documentFile_eq_ok {table file : String} (h : documentFile table = .ok file) :
    trimmed table ≠ "" ∧ (∀ c ∈ (trimmed table).toList, isNameChar c = true) ∧ file = trimmed table ++ ".dbd" := by
  unfold documentFile at h
  dsimp only at h
  split at h
  · cases h
  · next hne =>
    split at h
    · next hall =>
      cases h
      unfold trimmed
      rw [ne_eq, ← String.toList_inj, String.toList_ofList]
      exact ⟨by simpa using hne, by simpa using hall, rfl⟩
    · cases h

theorem documentFile_trimmed (table : String) : documentFile (trimmed table) = documentFile table := by
  unfold documentFile trimmed
  simp only [String.toList_ofList, trim_trim]

theorem isBlank_of_isAlpha {c : Char} (h : c.isAlpha = true) : isBlank c = false := by
  have hcode : (65 ≤ c.toNat ∧ c.toNat ≤ 90) ∨ (97 ≤ c.toNat ∧ c.toNat ≤ 122) := by
    rcases (Bool.or_eq_true _ _).mp h with hupper | hlower
    · exact .inl (of_decide_eq_true hupper)
    · obtain ⟨hfirst, hlast⟩ := (Bool.and_eq_true _ _).mp hlower
      exact .inr ⟨of_decide_eq_true hfirst, of_decide_eq_true hlast⟩
  unfold isBlank
  simp
  omega

theorem isBlank_of_isNameChar {c : Char} (h : isNameChar c = true) : isBlank c = false := by
  rcases (Bool.or_eq_true _ _).mp h with hword | hscore
  · rcases (Bool.or_eq_true _ _).mp hword with halpha | hdigit
    · exact isBlank_of_isAlpha halpha
    · exact isBlank_of_isDigit hdigit
  · rw [beq_iff_eq.mp hscore]
    decide

theorem trimmed_eq_iff {table : String} (h : ∀ c ∈ (trimmed table).toList, isNameChar c = true) :
    trimmed table = table ↔ ∀ c ∈ table.toList, isNameChar c = true := by
  constructor
  · intro heq
    rwa [heq] at h
  · intro hall
    unfold trimmed
    rw [trim_of_no_blank fun c hc => isBlank_of_isNameChar (hall c hc), String.ofList_toList]

theorem documentFile_inj {table table' file file' : String} (h : documentFile table = .ok file)
    (h' : documentFile table' = .ok file') : file = file' ↔ trimmed table = trimmed table' := by
  obtain ⟨-, -, rfl⟩ := documentFile_eq_ok h
  obtain ⟨-, -, rfl⟩ := documentFile_eq_ok h'
  exact String.append_left_inj ".dbd"

theorem documentPath_of_badName {table : String} {fault : SourceFault} (h : documentFile table = .error fault)
    (dir : String) : documentPath dir table = .error fault := map_eq_error.mpr h

theorem documentUrl_of_badName {table : String} {fault : SourceFault} (h : documentFile table = .error fault)
    (base : Url) : documentUrl base table = .error fault := by
  unfold documentUrl
  rw [h]
  rfl

theorem documentUrl_eq_ok {base url : Url} {table : String} : documentUrl base table = .ok url ↔
    ∃ file parts, documentFile table = .ok file ∧ base.path = .segments parts ∧ url =
      { base with
        path := .segments (Url.replaceLast base.scheme parts file), query := none, fragment := none } := by
  unfold documentUrl Url.join
  rw [bind_eq_ok]
  constructor
  · rintro ⟨file, hfile, h⟩
    cases hpath : base.path with
    | opaquePath text =>
      rw [hpath] at h
      cases h
    | segments parts =>
      rw [hpath] at h
      cases h
      exact ⟨file, parts, hfile, rfl, rfl⟩
  · rintro ⟨file, parts, hfile, hpath, rfl⟩
    exact ⟨file, hfile, by rw [hpath]; rfl⟩

theorem not_mem_documentFile {table file : String} (h : documentFile table = .ok file) {c : Char}
    (hc : c = '/' ∨ c = ':' ∨ c = '%') : c ∉ file.toList := by
  obtain ⟨-, hall, rfl⟩ := documentFile_eq_ok h
  rw [String.toList_append, List.mem_append, not_or]
  constructor
  · intro hmem
    have := hall c hmem
    rcases hc with rfl | rfl | rfl <;> exact absurd this (by decide)
  · rcases hc with rfl | rfl | rfl <;> decide

structure IsDrivePrefix (pre : String) : Prop where
  no_slash : '/' ∉ pre.toList
  no_percent : '%' ∉ pre.toList
  colon : pre = "" ∨ ':' ∈ pre.toList

theorem isDrivePrefix_empty : IsDrivePrefix "" := ⟨by decide, by decide, .inl rfl⟩

theorem isDrivePrefix_of_isDrive {segment : String} (h : UrlPath.isDrive segment = true) :
    IsDrivePrefix segment := by
  obtain ⟨letter, halpha, hsegment⟩ := UrlPath.eq_of_isDrive h
  exact {
    no_slash := UrlPath.isSegment_of_isDrive h
    no_percent := by simp [hsegment, UrlPath.ne_of_isAlpha halpha (c := '%') (by decide)]
    colon := .inr (by simp [hsegment]) }

section
variable {pre table file : String} (hpre : IsDrivePrefix pre) (h : documentFile table = .ok file)
include hpre h

theorem isEntryName_documentFile : IsEntryName (pre ++ file) := by
  obtain ⟨-, -, rfl⟩ := documentFile_eq_ok h
  have hlength : 2 < (pre ++ (trimmed table ++ ".dbd")).length := by
    rw [String.length_append, String.length_append, show ".dbd".length = 4 from rfl]
    omega
  have hother : ∀ other : String, other.length ≤ 2 → pre ++ (trimmed table ++ ".dbd") ≠ other := by
    intro other hshort e
    rw [e] at hlength
    omega
  refine ⟨?_, hother "" (by decide), hother "." (by decide), hother ".." (by decide)⟩
  rw [String.toList_append, List.mem_append, not_or]
  exact ⟨hpre.no_slash, not_mem_documentFile h (.inl rfl)⟩

omit h in
theorem eq_of_prefixed_eq {table' file' : String} (h' : documentFile table' = .ok file') (heq : pre ++ file = file') :
    pre = "" ∧ file = file' := by
  rcases hpre.colon with rfl | hcolon
  · exact ⟨rfl, by simpa using heq⟩
  · have hmem : ':' ∈ file'.toList := by simp [← heq, hcolon]
    exact absurd hmem (not_mem_documentFile h' (.inr (.inl rfl)))

end

/-! ## Reading -/

/-- The computation changes nothing and answers with the file at a path, if there is a path. -/
def ReadsAt (x : StateM FileTree (Except SourceFault ByteArray)) (path? : Option String) : Prop :=
  ∀ t, (x.run t).2 = t ∧ (x.run t).1.toOption = path?.bind fun path => (t.read path).toOption

theorem readsAt_error (fault : SourceFault) : ReadsAt (pure (.error fault)) none := fun _ => ⟨rfl, rfl⟩

theorem readsAt_readDocumentAt (path : String) : ReadsAt (readDocumentAt path) (some path) := by
  intro t
  unfold readDocumentAt
  rw [run_bind_of_run (FileTree.run_read path t)]
  cases h : t.read path <;> exact ⟨rfl, by simp [h, Except.toOption]; rfl⟩

theorem readsAt_readDocumentAtBytes (path : List UInt8) :
    ReadsAt (readDocumentAtBytes path) (String.fromUTF8? ⟨path.toArray⟩) := by
  unfold readDocumentAtBytes
  cases String.fromUTF8? ⟨path.toArray⟩ with
  | none => exact readsAt_error _
  | some path => exact readsAt_readDocumentAt path

def Url.localPath? (u : Url) : Option String :=
  if u.scheme = "file" then u.filePath?.bind fun path => String.fromUTF8? ⟨path.toArray⟩ else none

theorem Url.localPath?_segments {u : Url} {segments : List String} (h : u.path = .segments segments) :
    u.localPath? =
      if u.scheme = "file" ∧ u.host? = none then
        String.fromUTF8? ⟨(segments.flatMap fun s => 0x2F :: Percent.decode s.toList).toArray⟩
      else none := by
  unfold Url.localPath? Url.filePath?
  rw [h]
  by_cases hscheme : u.scheme = "file"
  · cases u.host? <;> simp [hscheme]
  · simp [hscheme]

theorem readsAt_fetchUrl (url : Url) : ReadsAt (fetchUrl url) url.localPath? := by
  unfold fetchUrl Url.localPath?
  split
  · next hscheme =>
    rw [if_pos hscheme]
    cases url.filePath? with
    | none => exact readsAt_error _
    | some path => exact readsAt_readDocumentAtBytes path
  · next hscheme =>
    rw [if_neg (by rw [hscheme]; decide)]
    exact readsAt_error _
  · next hscheme =>
    rw [if_neg (by rw [hscheme]; decide)]
    exact readsAt_error _
  · next hfile _ _ =>
    rw [if_neg hfile]
    exact readsAt_error _

namespace Origin

def path? : Origin → String → Option String
  | .directory dir, table => (documentPath dir table).toOption
  | .web base, table => (documentUrl base table).toOption.bind Url.localPath?

/-- Asking for a document changes nothing and reads at most one file. -/
theorem run_fetch (o : Origin) (table : String) (t : FileTree) :
    ((o.fetch table : StateM FileTree Fetched).run t).2 = t ∧
      ((o.fetch table : StateM FileTree Fetched).run t).1.outcome.toOption =
        (o.path? table).bind fun path => (t.read path).toOption := by
  cases o with
  | directory dir =>
    have hreads : ReadsAt (fetchFromDirectory dir table) (documentPath dir table).toOption := by
      unfold fetchFromDirectory
      cases documentPath dir table with
      | error fault => exact readsAt_error fault
      | ok path => exact readsAt_readDocumentAt path
    exact hreads t
  | web base =>
    unfold Origin.fetch Origin.path?
    dsimp only
    cases documentUrl base table with
    | error fault => exact ⟨rfl, rfl⟩
    | ok url => exact readsAt_fetchUrl url t

end Origin

/-! ## The folder of an origin -/

theorem replaceLast_eq (scheme : String) (segments : List String) :
    ∃ above pre, IsDrivePrefix pre ∧ ∀ file, Url.replaceLast scheme segments file = above ++ [pre ++ file] := by
  rcases List.eq_nil_or_concat' segments with rfl | ⟨above, last, rfl⟩
  · exact ⟨[], "", isDrivePrefix_empty, fun file => by simp [Url.replaceLast]⟩
  · simp only [Url.replaceLast_append_singleton]
    by_cases hdrive : Url.IsDrive scheme last
    · by_cases habove : above = []
      · exact ⟨[last], "", isDrivePrefix_empty, fun file => by simp [hdrive, habove]⟩
      · exact ⟨above, last, isDrivePrefix_of_isDrive hdrive.2, fun file => by simp [hdrive, habove]⟩
    · exact ⟨above, "", isDrivePrefix_empty, fun file => by simp [hdrive]⟩

/-- A path whose last name is that of a document is a text only if the bytes in front of the name are one. -/
theorem localPath_entry (above : List String) {pre : String} (hpre : IsDrivePrefix pre) :
    (∀ table file, documentFile table = .ok file →
      String.fromUTF8? ⟨((above ++ [pre ++ file]).flatMap fun s => 0x2F :: Percent.decode s.toList).toArray⟩ =
        none) ∨
    ∃ front, Path.IsFolder front ∧ ∀ table file, documentFile table = .ok file →
      String.fromUTF8? ⟨((above ++ [pre ++ file]).flatMap fun s => 0x2F :: Percent.decode s.toList).toArray⟩ =
        some (front ++ (pre ++ file)) := by
  let bytes := above.flatMap fun s => 0x2F :: Percent.decode s.toList
  have hbytes : ∀ table file, documentFile table = .ok file →
      ((above ++ [pre ++ file]).flatMap fun s => 0x2F :: Percent.decode s.toList) =
        bytes ++ 0x2F :: bytesOf (pre ++ file) := by
    intro table file h
    have hpercent : '%' ∉ (pre ++ file).toList := by
      rw [String.toList_append, List.mem_append, not_or]
      exact ⟨hpre.no_percent, not_mem_documentFile h (.inr (.inr rfl))⟩
    rw [List.flatMap_append, List.flatMap_singleton, decode_of_not_mem hpercent, String.ofList_toList]
  by_cases hfront : ∃ s, bytesOf s = bytes
  · obtain ⟨s, hs⟩ := hfront
    refine .inr ⟨s ++ "/", .inr ⟨s, rfl⟩, ?_⟩
    intro table file h
    rw [hbytes table file h, fromUTF8?_eq_some, bytesOf_append, bytesOf_append, hs, List.append_assoc]
    rfl
  · refine .inl ?_
    intro table file h
    rw [hbytes table file h]
    cases htext : String.fromUTF8? ⟨(bytes ++ 0x2F :: bytesOf (pre ++ file)).toArray⟩ with
    | none => rfl
    | some path =>
      -- the slash starts a character
      have hslash : UInt8.IsUTF8FirstByte 0x2F := .inl (by decide)
      exact absurd (exists_text_of_bytes hslash (fromUTF8?_eq_some.mp htext)) hfront

namespace Origin

theorem path?_of_badName (o : Origin) {table : String} {fault : SourceFault}
    (h : documentFile table = .error fault) : o.path? table = none := by
  unfold path?
  cases o with
  | directory dir =>
    dsimp only
    rw [documentPath_of_badName h dir]
    rfl
  | web base =>
    dsimp only
    rw [documentUrl_of_badName h base]
    rfl

theorem fetch_of_badName {m : Type → Type} [Monad m] [LawfulMonad m] [FileSystem m] (o : Origin) {table : String}
    {fault : SourceFault} (h : documentFile table = .error fault) :
    o.fetch table = (pure ⟨.error fault, []⟩ : m Fetched) := by
  unfold Origin.fetch
  cases o with
  | directory dir =>
    unfold fetchFromDirectory
    dsimp only
    rw [documentPath_of_badName h dir]
    dsimp only
    rw [pure_bind]
  | web base =>
    dsimp only
    rw [documentUrl_of_badName h base]

theorem path?_directory (dir : String) {table file : String} (h : documentFile table = .ok file) :
    (directory dir).path? table = some (Path.folder dir ++ ("" ++ file)) := by
  rw [String.empty_append, ← Path.join_eq]
  simp [path?, documentPath, h, Except.map, Except.toOption]

theorem path?_eq_bind (o : Origin) {table : String} {f : String → Option String}
    (h : ∀ file, documentFile table = .ok file → o.path? table = f file) :
    o.path? table = (documentFile table).toOption.bind f := by
  cases hfile : documentFile table with
  | error fault => exact path?_of_badName o hfile
  | ok file => exact h file hfile

theorem documentUrl_of_opaquePath {base : Url} {text : String} (hpath : base.path = .opaquePath text)
    (table : String) : (documentUrl base table).toOption = none := by
  unfold documentUrl Url.join
  rw [hpath]
  cases documentFile table <;> rfl

theorem path?_of_opaquePath {base : Url} {text : String} (hpath : base.path = .opaquePath text) (table : String) :
    (web base).path? table = none := by
  unfold path?
  dsimp only
  rw [documentUrl_of_opaquePath hpath, Option.bind_none]

theorem path?_segments {base : Url} {segments : List String} (hpath : base.path = .segments segments)
    {table file : String} (h : documentFile table = .ok file) : (web base).path? table =
      if base.scheme = "file" ∧ base.host? = none then
        String.fromUTF8? ⟨((Url.replaceLast base.scheme segments file).flatMap fun s =>
          0x2F :: Percent.decode s.toList).toArray⟩
      else none := by
  let url : Url :=
    { base with path := .segments (Url.replaceLast base.scheme segments file), query := none, fragment := none }
  have hurl : documentUrl base table = .ok url := documentUrl_eq_ok.mpr ⟨file, segments, h, hpath, rfl⟩
  have hhost : url.host? = base.host? := rfl
  show (documentUrl base table).toOption.bind Url.localPath? = _
  rw [hurl]
  show url.localPath? = _
  rw [Url.localPath?_segments rfl, hhost]

/-- All documents of an origin are in one folder, or it has none. -/
theorem path?_cases (o : Origin) :
    (∀ table, o.path? table = none) ∨
    ∃ front pre, Path.IsFolder front ∧ IsDrivePrefix pre ∧
      ∀ table, o.path? table = (documentFile table).toOption.map fun file => front ++ (pre ++ file) := by
  cases o with
  | directory dir =>
    refine .inr ⟨Path.folder dir, "", Path.isFolder_folder dir, isDrivePrefix_empty, ?_⟩
    intro table
    rw [path?_eq_bind _ fun file h => path?_directory dir h]
    exact Option.map_eq_bind.symm
  | web base =>
    cases hpath : base.path with
    | opaquePath text => exact .inl (path?_of_opaquePath hpath)
    | segments segments =>
      by_cases hlocal : base.scheme = "file" ∧ base.host? = none
      · obtain ⟨above, pre, hpre, hlast⟩ := replaceLast_eq base.scheme segments
        rcases localPath_entry above hpre with hnone | ⟨front, hfront, hsome⟩
        · refine .inl fun table => ?_
          rw [path?_eq_bind (web base) (f := fun _ => none)]
          · exact Option.bind_fun_none _
          · intro file h
            rw [path?_segments hpath h, if_pos hlocal, hlast, hnone table file h]
        · refine .inr ⟨front, pre, hfront, hpre, fun table => ?_⟩
          rw [path?_eq_bind (web base) (f := fun file => some (front ++ (pre ++ file)))]
          · exact Option.map_eq_bind.symm
          · intro file h
            rw [path?_segments hpath h, if_pos hlocal, hlast, hsome table file h]
      · refine .inl fun table => ?_
        rw [path?_eq_bind (web base) (f := fun _ => none)]
        · exact Option.bind_fun_none _
        · intro file h
          rw [path?_segments hpath h, if_neg hlocal]

end Origin

end TableLayout
