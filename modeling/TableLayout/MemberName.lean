import TableLayout.Column
import TableLayout.Text.Case
import TableLayout.Text.Cut

/-!
# Names in the generated code

Members are spelled without underscores, the character after each one in upper case; a localized column loses
its suffix first. That is the outcome of removing one underscore after the other. Statement names are spelled in
capitals with an underscore where a small letter meets a capital one.
-/

namespace TableLayout

open Text

/-- Drops the underscores and puts the character after each of them in upper case. -/
def camelCase : List Char → List Char
  | [] => []
  | ['_'] => []
  | '_' :: '_' :: rest => camelCase ('_' :: rest)
  | '_' :: c :: rest => upper c ++ camelCase rest
  | c :: rest => c :: camelCase rest

/-- A word with its first character in upper case. -/
def capitalized : List Char → List Char
  | [] => []
  | c :: rest => upper c ++ rest

/-- The name without its first underscore, with a capital behind where it was; nothing without an underscore. -/
def raiseFirst? (s : List Char) : Option (List Char) :=
  (cutAt '_' s).map fun (before, after) => before ++ capitalized after

theorem count_capitalized_le (word : List Char) : (capitalized word).count '_' ≤ word.count '_' := by
  cases word with
  | nil => exact Nat.le_refl _
  | cons c rest =>
    have hcount : (capitalized (c :: rest)).count '_' = (upper c).count '_' + rest.count '_' := List.count_append
    by_cases hc : c = '_'
    · subst hc
      have hmark : (upper '_').count '_' = 1 := by decide
      have hword : ('_' :: rest).count '_' = rest.count '_' + 1 := List.count_cons_self
      omega
    · have hupper : (upper c).count '_' = 0 := List.count_eq_zero.mpr (underscore_not_mem_upper hc)
      have hword : (c :: rest).count '_' = rest.count '_' := List.count_cons_of_ne hc
      omega

theorem count_raiseFirst?_lt {s s' : List Char} (h : raiseFirst? s = some s') : s'.count '_' < s.count '_' := by
  obtain ⟨⟨before, after⟩, hcut, rfl⟩ := Option.map_eq_some_iff.mp h
  obtain ⟨rfl, -⟩ := cutAt_eq_some.mp hcut
  rw [List.count_append, List.count_append, List.count_cons_self]
  have hafter := count_capitalized_le after
  omega

/-- Removes the first underscore as long as there is one. -/
def raised (s : List Char) : List Char :=
  match _hs : raiseFirst? s with
  | none => s
  | some s' => raised s'
termination_by s.count '_'
decreasing_by exact count_raiseFirst?_lt _hs

def unsuffixed (type : ColumnType) (name : List Char) : List Char :=
  match type with
  | .localized => (dropEnd? "_lang".toList name).getD name
  | _ => name

/-- The struct member for a field of the given name. -/
def memberName (type : ColumnType) (name : String) : String :=
  String.ofList (camelCase (unsuffixed type name.toList))

/-- Capitals of `s`, with an underscore before an upper-case character that follows a lower-case one;
`afterLower` tells whether the character before `s` is one. -/
def snakeFrom (afterLower : Bool) : List Char → List Char
  | [] => []
  | c :: rest =>
    (if afterLower && isUpper c then ['_'] else []) ++ upper c ++ snakeFrom (isLower c) rest

def screamingSnake (name : String) : String := String.ofList (snakeFrom false name.toList)

end TableLayout
