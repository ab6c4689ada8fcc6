import StarlarkMacro.Check.Shape

/-!
# Macros in a source text

Every function definition that is not inside another one is taken for a macro, at any depth inside other
compound statements. A macro is summarised by its commands and directories in order, and each of its faults
is found at a place; a fault does not end the search for others. The path of a push without a value still
opens a directory.
-/

namespace StarlarkMacro

/-- The commands and directories of a macro, in the order of the text. -/
structure MacroSummary where
  name : List Char
  commands : List (List Char)
  directories : List Text
  deriving DecidableEq, Repr

namespace Check

open Source

inductive Fault where
  | decorated
  | parameters
  | notIndented
  | notOneStatement
  | returnNotLast
  | badLiteral
  | unmatchedPop
  | unexpected
  | missingReturn
  deriving DecidableEq, Repr

def Fault.message : Fault → String
  | decorated => "macros must not be decorated"
  | parameters => "must take exactly one parameter \x60ctx\x60"
  | notIndented => "body must be an indented block"
  | notOneStatement => "expected one simple statement per line"
  | returnNotLast => "\x60return ctx\x60 must be the final statement"
  | badLiteral => "invalid directory string literal"
  | unmatchedPop => "pop_directory without a matching push_directory"
  | unexpected => "unexpected statement"
  | missingReturn => "missing final \x60return ctx\x60"

/-- What is found in a macro, with the place of each fault. -/
structure Findings where
  faults : List (Nat × Fault)
  commands : List (List Char)
  directories : List Text
  deriving DecidableEq, Repr

namespace Findings

def none : Findings := ⟨[], [], []⟩

def fault (place : Nat) (f : Fault) : Findings := ⟨[(place, f)], [], []⟩

def append (a b : Findings) : Findings :=
  ⟨a.faults ++ b.faults, a.commands ++ b.commands, a.directories ++ b.directories⟩

instance : Append Findings := ⟨append⟩

end Findings

/-- One parameter named for the context, with nothing else about it. -/
def takesOnlyContext (ps : Parameters) : Bool :=
  ps == ⟨[], [⟨contextName, false, false⟩], .absent, [], .none⟩

/-- What a line adds and the number of open directories behind it. -/
def lineFindings (depth : Nat) (isLast : Bool) (s : Statement) : Findings × Nat :=
  match Shape.ofStatement? s with
  | .none => (.fault s.start .notOneStatement, depth)
  | .some .returnContext => (if isLast then .none else .fault s.start .returnNotLast, depth)
  | .some (.push literal) =>
    match StringLiteral.value? literal with
    | .some path => (⟨[], [], [path]⟩, depth + 1)
    | .none => (.fault s.start .badLiteral, depth + 1)
  | .some .pop => if depth = 0 then (.fault s.start .unmatchedPop, 0) else (.none, depth - 1)
  | .some (.command method) => (⟨[], [method], []⟩, depth)
  | .some .other => (.fault s.start .unexpected, depth)

/-- What the lines of a block add, with `depth` directories open before them. -/
def bodyFindings : Nat → List Statement → Findings
  | _, [] => .none
  | depth, s :: rest =>
    let (findings, depth) := lineFindings depth rest.isEmpty s
    findings ++ bodyFindings depth rest

def endsWithReturn (body : List Statement) : Bool :=
  body.getLast?.bind Shape.ofStatement? = some .returnContext

def functionFindings (start : Nat) (head : FunctionHead) (indented : Bool)
    (body : List Statement) : Findings :=
  (if head.decorators = 0 then .none else .fault start .decorated) ++
  (if takesOnlyContext head.parameters then .none else .fault start .parameters) ++
  if indented then
    bodyFindings 0 body ++ if endsWithReturn body then .none else .fault start .missingReturn
  else .fault start .notIndented

mutual

/-- The names of the outermost functions of a statement, with what is found in each. -/
def macros : Statement → List (List Char × Findings)
  | .line .. => []
  | .function start head indented body => [(head.name, functionFindings start head indented body)]
  | .compound _ inner => macrosOf inner

def macrosOf : List Statement → List (List Char × Findings)
  | [] => []
  | s :: rest => macros s ++ macrosOf rest

end

end Check

end StarlarkMacro
