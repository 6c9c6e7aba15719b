/-!
# Diagnostics

Every failure is reported under a code, which fixes the stage it belongs to and the help it offers. The
catalog lists all codes.
-/

namespace TableLayout

inductive Stage
  | parse
  | resolve
  | assemble
  | internal
deriving DecidableEq, Repr

def Stage.title : Stage → String
  | .parse => "Parse"
  | .resolve => "Resolve"
  | .assemble => "Assemble"
  | .internal => "Internal"

inductive Code
  | parseError
  | invalidBuild
  | unresolvedVersion
  | unknownColumn
  | unsupportedColumnType
  | invalidFieldSize
  | unsupportedLocalizedArray
  | internalBug
deriving DecidableEq, Repr

namespace Code

def all : List Code :=
  [.parseError, .invalidBuild, .unresolvedVersion, .unknownColumn, .unsupportedColumnType,
   .invalidFieldSize, .unsupportedLocalizedArray, .internalBug]

def label : Code → String
  | .parseError => "D2C0001"
  | .invalidBuild => "D2C0002"
  | .unresolvedVersion => "D2C0100"
  | .unknownColumn => "D2C0110"
  | .unsupportedColumnType => "D2C0120"
  | .invalidFieldSize => "D2C0130"
  | .unsupportedLocalizedArray => "D2C0140"
  | .internalBug => "D2C0901"

def summary : Code → String
  | .parseError => "failed to parse definition document"
  | .invalidBuild => "invalid build string"
  | .unresolvedVersion => "no version definition with a layout hash applies"
  | .unknownColumn => "field references an unknown column"
  | .unsupportedColumnType => "unsupported column type"
  | .invalidFieldSize => "invalid integer field size"
  | .unsupportedLocalizedArray => "localized string arrays are not supported"
  | .internalBug => "internal dbd2cpp bug"

def help? : Code → Option String
  | .invalidBuild => some "Builds have four components, like 10.0.2.45969."
  | .unresolvedVersion =>
    some <| "Check that the definition has a LAYOUT line for the requested build, " ++
      "or omit the build to use the latest version."
  | .unknownColumn => some "Every field in a version block must be declared in the COLUMNS block."
  | .invalidFieldSize => some "Integer sizes must be 8, 16, 32 or 64."
  | .internalBug => some "This is a bug in dbd2cpp. Please report it with the definition document."
  | .parseError | .unsupportedColumnType | .unsupportedLocalizedArray => none

def stage : Code → Stage
  | .parseError | .invalidBuild => .parse
  | .unresolvedVersion => .resolve
  | .unknownColumn | .unsupportedColumnType | .invalidFieldSize | .unsupportedLocalizedArray => .assemble
  | .internalBug => .internal

def catalogRow (c : Code) : String :=
  let help := c.help?.getD ""
  s!"| {c.label} | {c.stage.title} | {c.summary} | {help} |\n"

end Code

structure Diagnostic where
  code : Code
  message : String
deriving DecidableEq, Repr

/-- The report of a failure, with its help on a line of its own. -/
def Diagnostic.text (d : Diagnostic) : String :=
  let help := match d.code.help? with
    | some help => "\n  help: " ++ help
    | none => ""
  s!"{d.code.label} {d.code.stage.title} Error: {d.message}" ++ help

/-- The catalog of all codes as a Markdown table. -/
def catalog : String :=
  "# dbd2cpp diagnostics catalog\n\n" ++
  "This document is generated from `crates/dbd2cpp-core/src/diagnostics.rs`.\n\n" ++
  "| Code | Stage | Message | Help |\n" ++
  "| ---- | ----- | ------- | ---- |\n" ++
  String.join (Code.all.map Code.catalogRow)

end TableLayout
