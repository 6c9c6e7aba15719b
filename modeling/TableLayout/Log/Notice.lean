/-!
# Notices

What the program remarks while it works, with a level and the part of the program that it comes from.
-/

namespace TableLayout

inductive Level
  | error
  | warn
  | info
  | debug
  | trace
deriving DecidableEq, Repr

namespace Level

/-- Grows with the detail. -/
def rank : Level → Nat
  | .error => 1
  | .warn => 2
  | .info => 3
  | .debug => 4
  | .trace => 5

def label : Level → String
  | .error => "ERROR"
  | .warn => "WARN"
  | .info => "INFO"
  | .debug => "DEBUG"
  | .trace => "TRACE"

end Level

inductive Topic
  | program
  | document
  | resolution
  | compilation
  | listfile
  | source
deriving DecidableEq, Repr

def Topic.name : Topic → String
  | .program => "dbd2cpp"
  | .document => "dbd2cpp_core::dbd::parse"
  | .resolution => "dbd2cpp_core::resolve"
  | .compilation => "dbd2cpp_core::assemble"
  | .listfile => "dbd2cpp_core::listfile"
  | .source => "dbd2cpp_source"

structure Notice where
  level : Level
  topic : Topic
  message : String
deriving DecidableEq, Repr

/-- The line of a notice; the further lines of its message are indented. -/
def Notice.line (n : Notice) : String :=
  "[" ++ n.level.label ++ "] " ++ "\n    ".intercalate (n.message.splitOn "\n") ++ "\n"

end TableLayout
