import TableLayout.Proofs.Source.Documents

/-!
# The addresses of documents

A base URL ends in a slash, but this is not always a slash of its path: a query or a fragment can end in one too. A
document is joined to the path alone, so that it replaces the last segment of a base that ends so.
-/

namespace TableLayout

open Text

/-! ## Base URLs -/

theorem readBaseUrl_eq_ok {text : String} {base : Url} :
    readBaseUrl text = .ok base ↔ Url.read text = .ok base ∧ base.text.toList.getLast? = some '/' := by
  unfold readBaseUrl
  cases Url.read text with
  | error fault => simp
  | ok url =>
    simp only [Except.ok.injEq]
    split
    · next hslash =>
      simp only [Except.ok.injEq]
      exact (and_iff_left_of_imp fun h => h ▸ hslash).symm
    · next hslash =>
      simp only [reduceCtorEq, false_iff, not_and]
      exact fun h => h ▸ hslash

namespace Url

variable {u : Url}

theorem text_of_no_tail (hquery : u.query = none) (hfragment : u.fragment = none) :
    u.text = u.scheme ++ ":" ++ u.authorityText ++ u.path.text := by
  unfold text
  simp [hquery, hfragment]

theorem endsInSlash_of_text (hslash : u.text.toList.getLast? = some '/') (hquery : u.query = none)
    (hfragment : u.fragment = none) (hpath : u.path.text ≠ "") : u.path.EndsInSlash := by
  have hne : u.path.text.toList ≠ [] := by
    rw [ne_eq, ← String.toList_empty, String.toList_inj]
    exact hpath
  rw [text_of_no_tail hquery hfragment, String.toList_append, List.getLast?_append_of_ne_nil _ hne,
    List.getLast?_eq_some_iff] at hslash
  obtain ⟨dir, hdir⟩ := hslash
  exact ⟨String.ofList dir, by rw [← String.toList_inj, hdir]; simp⟩

end Url

/-! ## Documents -/

/-- A document's URL keeps the scheme and the authority of its base, and the path as far as its last slash or a drive
behind that. The slash that every base ends in belongs to the path where neither a query nor a fragment follows, as the
path of a special URL is never empty. -/
theorem documentUrl_of_base {text table : String} {base url : Url} (hbase : readBaseUrl text = .ok base)
    (hurl : documentUrl base table = .ok url) :
    url.scheme = base.scheme ∧ url.authority = base.authority ∧ url.query = none ∧ url.fragment = none ∧
    base.Puts (trimmed table ++ ".dbd") url.path.text ∧
    -- the whole path is kept if it ends in a slash itself
    (url.path.text = base.path.text ++ (trimmed table ++ ".dbd") ↔ base.path.EndsInSlash ∨ base.EndsInDrive) ∧
    (base.query = none → base.fragment = none → base.path.text ≠ "" → base.path.EndsInSlash) ∧
    (Url.isSpecial base.scheme = true → base.path.text ≠ "") := by
  obtain ⟨hread, hslash⟩ := readBaseUrl_eq_ok.mp hbase
  obtain ⟨file, parts, hfile, hpath, rfl⟩ := documentUrl_eq_ok.mp hurl
  obtain ⟨-, -, rfl⟩ := documentFile_eq_ok hfile
  have hreadPath := Url.hasReadPath_read hread
  have hputs := Url.puts_replaceLast hpath (hreadPath.isSegment hpath) (trimmed table ++ ".dbd")
  refine ⟨rfl, rfl, rfl, rfl, hputs, hputs.eq_append_iff, Url.endsInSlash_of_text hslash, ?_⟩
  intro hspecial
  rw [hpath]
  exact UrlPath.text_ne_empty (hreadPath.ne_nil hpath hspecial)

theorem documentUrl_of_base_loopback : ∃ base url,
    readBaseUrl "http://[::1]/defs/" = .ok base ∧ documentUrl base " Map" = .ok url ∧
      url.text = "http://[::1]/defs/Map.dbd" ∧ url.authority = base.authority ∧ base.path.text = "/defs/" ∧
      url.path.text = base.path.text ++ "Map.dbd" := by
  let loopback : Authority := ⟨"", none, .ipv6 [0, 0, 0, 0, 0, 0, 0, 1], none⟩
  have hbase : readBaseUrl "http://[::1]/defs/" =
      .ok ⟨"http", some loopback, .segments ["defs", ""], none, none⟩ := by
    decide +kernel
  have hurl : documentUrl ⟨"http", some loopback, .segments ["defs", ""], none, none⟩ " Map" =
      .ok ⟨"http", some loopback, .segments ["defs", "Map.dbd"], none, none⟩ := by
    decide +kernel
  obtain ⟨-, hauthority, -, -, -, hkept, hslash, hpath⟩ := documentUrl_of_base hbase hurl
  have hends := hslash rfl rfl (hpath rfl)
  exact ⟨_, _, hbase, hurl, by decide +kernel, hauthority, by decide +kernel, hkept.mpr (.inl hends)⟩

/-- A query that ends in a slash makes up for the one that the path lacks, and the segment `defs` is lost. -/
theorem documentUrl_of_slash_in_query : ∃ base url,
    readBaseUrl "http://[::1]/defs?ref=master/" = .ok base ∧ documentUrl base "Map" = .ok url ∧
      base.path.text = "/defs" ∧ url.text = "http://[::1]/Map.dbd" ∧ url.path.text = "/Map.dbd" ∧
      url.path.text ≠ base.path.text ++ "Map.dbd" := by
  let loopback : Authority := ⟨"", none, .ipv6 [0, 0, 0, 0, 0, 0, 0, 1], none⟩
  refine ⟨⟨"http", some loopback, .segments ["defs"], some "ref=master/", none⟩,
    ⟨"http", some loopback, .segments ["Map.dbd"], none, none⟩, ?_⟩
  decide +kernel

end TableLayout
