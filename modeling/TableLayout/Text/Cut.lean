/-!
# White space and separators

White space is what has the property White_Space: the information separators U+001C to U+001F, the zero width
space and the byte order mark are not blank. A cut looks for the first separator and drops it. The lines of a text
are what its newlines end.
-/

namespace TableLayout.Text

def isBlank (c : Char) : Bool :=
  let n := c.toNat
  (0x9 ≤ n && n ≤ 0xD) || n == 0x20 || n == 0x85 || n == 0xA0 || n == 0x1680 ||
    (0x2000 ≤ n && n ≤ 0x200A) || n == 0x2028 || n == 0x2029 || n == 0x202F || n == 0x205F || n == 0x3000

def trimStart (s : List Char) : List Char := s.dropWhile isBlank

def trimEnd (s : List Char) : List Char := (s.reverse.dropWhile isBlank).reverse

def trim (s : List Char) : List Char := trimEnd (trimStart s)

def trimmed (s : String) : String := String.ofList (trim s.toList)

/-! ## Cuts -/

/-- What stands before and after the first `sep`. -/
def cutAt (sep : Char) (s : List Char) : Option (List Char × List Char) :=
  match s.dropWhile (· != sep) with
  | [] => none
  | _ :: rest => some (s.takeWhile (· != sep), rest)

/-- What stands before and after the first two `sep` in a row. -/
def cutAtPair (sep : Char) : List Char → Option (List Char × List Char)
  | a :: b :: rest =>
    if a = sep ∧ b = sep then some ([], rest)
    else (cutAtPair sep (b :: rest)).map fun (before, after) => (a :: before, after)
  | _ => none

/-- What follows `start` if the text starts with it. -/
def dropStart? (start s : List Char) : Option (List Char) :=
  if start.isPrefixOf s then some (s.drop start.length) else none

/-- What precedes `ending` if the text ends with it. -/
def dropEnd? (ending s : List Char) : Option (List Char) :=
  if ending.isSuffixOf s then some (s.take (s.length - ending.length)) else none

/-- Puts `c` at the front of the first line. -/
def extendLine (c : Char) : List (List Char) → List (List Char)
  | [] => [[c]]
  | line :: rest => (c :: line) :: rest

/-- The lines of a text: a newline ends one, and what follows the last newline is one if it is not empty.
A carriage return before the newline stays; every reader of lines trims it away as white space. -/
def lines (s : List Char) : List (List Char) :=
  s.foldr (fun c ls => if c = '\n' then [] :: ls else extendLine c ls) []

/-- The text of the given lines, each ended by a newline. -/
def unlines (ls : List String) : String := String.join (ls.map (· ++ "\n"))

/-! ## Nothing is lost -/

theorem cutAt_append {sep : Char} {before : List Char} (h : sep ∉ before) (after : List Char) :
    cutAt sep (before ++ sep :: after) = some (before, after) := by
  have hd : ∀ c ∈ before, (c != sep) = true := fun c hc => by
    simpa using fun e : c = sep => h (e ▸ hc)
  simp [cutAt, List.dropWhile_append_of_pos hd, List.takeWhile_append_of_pos hd]

theorem cutAt_eq_some {sep : Char} {s before after : List Char} :
    cutAt sep s = some (before, after) ↔ s = before ++ sep :: after ∧ sep ∉ before := by
  constructor
  · intro h
    unfold cutAt at h
    split at h
    · cases h
    · next c rest hd =>
      cases h
      have hc : c = sep := by
        have := List.head?_dropWhile_not (· != sep) s
        simpa [hd] using this
      refine ⟨?_, fun hmem => ?_⟩
      · rw [hc] at hd
        rw [← hd, List.takeWhile_append_dropWhile]
      · have := List.all_eq_true.mp List.all_takeWhile _ hmem
        simp at this
  · rintro ⟨rfl, h⟩
    exact cutAt_append h after

theorem cutAt_eq_none {sep : Char} {s : List Char} (h : sep ∉ s) : cutAt sep s = none := by
  have : s.dropWhile (· != sep) = [] := by
    induction s with
    | nil => rfl
    | cons c s ih =>
      have hc : c ≠ sep := fun e => h (e ▸ List.mem_cons_self)
      simp [hc, ih fun m => h (List.mem_cons_of_mem _ m)]
  simp [cutAt, this]

theorem lines_append_newline {line : List Char} (h : '\n' ∉ line) (rest : List Char) :
    lines (line ++ '\n' :: rest) = line :: lines rest := by
  induction line with
  | nil => simp [lines]
  | cons c line ih =>
    have hc : c ≠ '\n' := fun e => h (e ▸ List.mem_cons_self)
    have ht : '\n' ∉ line := fun m => h (List.mem_cons_of_mem _ m)
    have := ih ht
    simp only [lines, List.cons_append, List.foldr_cons, hc, if_false] at this ⊢
    rw [this, extendLine]

theorem lines_of_not_mem {line : List Char} (h : '\n' ∉ line) (hne : line ≠ []) :
    lines line = [line] := by
  induction line with
  | nil => exact absurd rfl hne
  | cons c line ih =>
    have hc : c ≠ '\n' := fun e => h (e ▸ List.mem_cons_self)
    have ht : '\n' ∉ line := fun m => h (List.mem_cons_of_mem _ m)
    cases line with
    | nil => simp [lines, extendLine, hc]
    | cons d line =>
      have := ih ht (by simp)
      simp only [lines, List.foldr_cons, hc, if_false] at this ⊢
      rw [this, extendLine]

theorem toList_unlines (ls : List String) :
    (unlines ls).toList = ls.flatMap (·.toList ++ ['\n']) := by
  simp [unlines, List.flatMap_map]

end TableLayout.Text
