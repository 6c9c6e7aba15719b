import TableLayout.Text.Cut
import TableLayout.Text.Numeral
import TableLayout.Text.Quoted

/-!
# Client builds

A build is four numbers, compared from the first to the last; a range holds everything between two builds,
both included. Their texts are read back as written, and a text is never both a build and a range.
-/

namespace TableLayout

open Text

structure Build where
  expansion : UInt32
  major : UInt32
  minor : UInt32
  number : UInt32
deriving DecidableEq, Repr

structure BuildRange where
  min : Build
  max : Build
deriving DecidableEq, Repr

inductive BuildFault
  | componentCount (text : String)
  | component (text part : String)
  | noHyphen (text : String)
deriving DecidableEq, Repr

def BuildFault.message : BuildFault → String
  | .componentCount text => s!"invalid build {quoted text}: expected four dot-separated components"
  | .component text part => s!"invalid build {quoted text}: component {quoted part} is not a number"
  | .noHyphen text => s!"invalid build range {quoted text}: expected <min>-<max>"

namespace Build

instance : Ord Build where
  compare a b :=
    (compare a.expansion b.expansion).then <| (compare a.major b.major).then <|
      (compare a.minor b.minor).then (compare a.number b.number)

instance : LE Build := ⟨fun a b => (compare a b).isLE = true⟩

instance (a b : Build) : Decidable (a ≤ b) := inferInstanceAs (Decidable (_ = true))

def text (b : Build) : String :=
  s!"{b.expansion.toNat}.{b.major.toNat}.{b.minor.toNat}.{b.number.toNat}"

instance : ToString Build := ⟨text⟩

/-- Reads one component of the build text `whole`. -/
def readComponent (whole part : List Char) : Except BuildFault UInt32 :=
  match readWord part with
  | some n => .ok n
  | none => .error (.component (String.ofList whole) (String.ofList part))

/-- Reads four numbers between dots, with any white space around them all. -/
def read (s : List Char) : Except BuildFault Build :=
  match (trim s).splitOn '.' with
  | [a, b, c, d] => do
    let expansion ← readComponent s a
    let major ← readComponent s b
    let minor ← readComponent s c
    let number ← readComponent s d
    return ⟨expansion, major, minor, number⟩
  | _ => .error (.componentCount (String.ofList s))

end Build

namespace BuildRange

def contains (r : BuildRange) (b : Build) : Bool := r.min ≤ b && b ≤ r.max

def text (r : BuildRange) : String := s!"{r.min.text}-{r.max.text}"

instance : ToString BuildRange := ⟨text⟩

/-- Reads two builds with a hyphen between them. -/
def read (s : List Char) : Except BuildFault BuildRange :=
  match cutAt '-' s with
  | some (low, high) => do
    let min ← Build.read low
    let max ← Build.read high
    return ⟨min, max⟩
  | none => .error (.noHyphen (String.ofList s))

end BuildRange

end TableLayout
