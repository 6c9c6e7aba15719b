import TableLayout.Log.Notice
import TableLayout.Pattern.Meaning
import TableLayout.Text.Cut

/-!
# Log filters

A filter is a list of directives `level`, `topic` or `topic=level` with commas between them, and after a
slash a pattern that must occur in messages. Of the directives for a topic the one with the longest name decides.
-/

namespace TableLayout

open Text

structure Directive where
  topic : Option String
  /-- The greatest rank that passes; 0 lets nothing through. -/
  limit : Nat
deriving DecidableEq, Repr

structure LogFilter where
  directives : List Directive
  /-- What must occur in a message. -/
  pattern : Option Pattern
deriving DecidableEq, Repr

namespace LogFilter

def limit? (name : String) : Option Nat :=
  [("off", 0), ("error", 1), ("warn", 2), ("info", 3), ("debug", 4), ("trace", 5)].lookup
    (name.map Char.toLower)

def noLimit : Nat := 5

/-- Reads one directive; a faulty one gives the text to complain about. -/
def readDirective (s : String) : Except String Directive :=
  match s.splitOn "=" with
  | [one] =>
    match limit? (trimmed one) with
    | some limit => .ok ⟨none, limit⟩
    | none => .ok ⟨some one, noLimit⟩
  | [topic, level] =>
    if trimmed level = "" then .ok ⟨some topic, noLimit⟩
    else
      match limit? (trimmed level) with
      | some limit => .ok ⟨some topic, limit⟩
      | none => .error (trimmed level)
  | _ => .error s

/-- A later directive for the same topic takes the place of the earlier one. -/
def addDirective (d : Directive) : List Directive → List Directive
  | [] => [d]
  | e :: rest => if e.topic = d.topic then d :: rest else e :: addDirective d rest

/-- The name length by which directives are tried, the longest first. -/
def Directive.weight (d : Directive) : Nat := (d.topic.map String.utf8ByteSize).getD 0

/-- Orders the directives by weight; without any, only errors pass. -/
def ofDirectives (directives : List Directive) (pattern : Option Pattern) : LogFilter :=
  if directives.isEmpty then ⟨[⟨none, 1⟩], pattern⟩
  else ⟨directives.mergeSort fun a b => Directive.weight a ≤ Directive.weight b, pattern⟩

def complaint (what : String) : String := "warning: " ++ what ++ ", ignoring it\n"

def badDirective (what : String) : String := complaint ("invalid logging spec '" ++ what ++ "'")

def readDirectives (items : List String) : List Directive × String :=
  items.foldl (fun (directives, complaints) item =>
    if item = "" then (directives, complaints)
    else
      match readDirective item with
      | .ok d => (addDirective d directives, complaints)
      | .error what => (directives, complaints ++ badDirective what)) ([], "")

/-- Reads the pattern behind the slash; there is none if it is faulty. -/
def readPattern (s : String) : Option Pattern × String :=
  match Pattern.read s.toList with
  | .ok pattern => (some pattern, "")
  | .error fault => (none, complaint ("invalid regex filter - " ++ fault.message s.toList))

def ofText (spec : String) : LogFilter × String :=
  match spec.splitOn "/" with
  | _ :: _ :: _ :: _ =>
    (ofDirectives [] none, complaint ("invalid logging spec '" ++ spec ++ "' (too many '/'s)"))
  | parts =>
    let (directives, complaints) := readDirectives (((parts.headD "").splitOn ",").map trimmed)
    match parts[1]? with
    | none => (ofDirectives directives none, complaints)
    | some pattern =>
      let (pattern, more) := readPattern pattern
      (ofDirectives directives pattern, complaints ++ more)

def Directive.appliesTo (d : Directive) (topic : Topic) : Bool :=
  match d.topic with
  | none => true
  | some name => name.toList.isPrefixOf topic.name.toList

def passes (f : LogFilter) (n : Notice) : Bool :=
  match f.directives.reverse.find? (Directive.appliesTo · n.topic) with
  | some d => n.level.rank ≤ d.limit && f.pattern.all (·.occursIn n.message.toList)
  | none => false

end LogFilter

end TableLayout
