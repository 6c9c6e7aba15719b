import TableLayout.Definitions
import TableLayout.Fault

/-!
# Choosing a version

The first version that covers the requested build is compiled. Without a build, and where no version covers
it, the last one is. The choice does not look at hashes; a chosen version must have one.
-/

namespace TableLayout.Definitions

/-- The first version that covers the build. -/
def covering? (d : Definitions) (build : Option Build) : Option Version :=
  build.bind fun b => d.versions.find? (·.covers b)

/-- The version to compile, with or without a hash. -/
def selected? (d : Definitions) (build : Option Build) : Option Version :=
  (d.covering? build).or d.versions.getLast?

def selectedIndex (d : Definitions) (build : Option Build) : Nat :=
  match build.bind fun b => d.versions.findIdx? (·.covers b) with
  | some i => i
  | none => d.versions.length - 1

/-- The version to compile and its first layout hash. -/
def resolve (d : Definitions) (build : Option Build) : Except Fault (Version × String) :=
  match d.selected? build with
  | none => .error .noVersions
  | some v =>
    match v.canonicalHash? with
    | none => .error (.noLayoutHash build)
    | some hash => .ok (v, hash)

/-- A build was asked for that no version covers. -/
def fallsBack (d : Definitions) (build : Option Build) : Bool :=
  build.isSome && (d.covering? build).isNone

end TableLayout.Definitions
