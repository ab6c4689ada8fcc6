import StarlarkMacro.Check.Macro
import StarlarkMacro.Log
import StarlarkMacro.Source.File
import StarlarkMacro.Text.Shown

/-!
# Checking a whole text

A text is accepted if it is well formed, every statement of it is a function definition, and every macro in
it is without fault. The faults of a text are those of its statements first, then those of its macros in
order. A refusal is logged, but not that of a malformed text. About a well-formed text without a tree there
is no verdict.
-/

namespace StarlarkMacro

open Source

inductive Violation where
  /-- A statement that is no function definition, by its text. -/
  | statement (text : List Char)
  | inMacro (line : Nat) (name : List Char) (fault : Check.Fault)
  deriving DecidableEq, Repr

namespace Violation

def message : Violation → List Char
  | statement text => "unexpected top-level statement: ".toList ++ text
  | inMacro line name fault =>
    "line ".toList ++ Nat.toDigits 10 line ++ ": macro \x60".toList ++ name ++ "\x60: ".toList ++
      fault.message.toList

end Violation

inductive Verdict where
  /-- The text is no sequence of statements. -/
  | malformed
  | checked (violations : List Violation)
  deriving DecidableEq, Repr

namespace Verdict

def isFunction : Statement → Bool
  | .function .. => true
  | _ => false

def statementViolations (file : File) : List Violation :=
  (file.statements.filter fun top ↦ !isFunction top.statement).map fun top ↦ .statement top.text

def macrosOf (file : File) : List (List Char × Check.Findings) :=
  Check.macrosOf (file.statements.map TopLevel.statement)

def macroViolations (file : File) : List Violation :=
  (macrosOf file).flatMap fun (name, findings) ↦
    findings.faults.map fun (place, fault) ↦ .inMacro (file.lineAt place) name fault

def ofSource (source : List Char) : Except Flaw Verdict :=
  match File.parse source with
  | .error .malformed => .ok malformed
  | .error (.flawed flaw) => .error flaw
  | .ok file => .ok (checked (statementViolations file ++ macroViolations file))

def ok : Verdict → Bool
  | checked [] => true
  | _ => false

/-- The violations as texts. What is malformed about a text is not said. -/
def errors : Verdict → List (List Char)
  | malformed => ["LibCST parse error".toList]
  | checked violations => violations.map Violation.message

def log : Verdict → List LogRecord
  | malformed | checked [] => []
  | checked violations =>
    let shown := violations.map fun v ↦ (Text.ofChars v.message).shown
    [.refused ('[' :: [',', ' '].intercalate shown ++ [']'])]

end Verdict

/-- The summaries of a text's macros. -/
def summarize (source : List Char) : Except Unreadable (List MacroSummary) := do
  let file ← File.parse source
  return (Verdict.macrosOf file).map fun (name, findings) ↦
    ⟨name, findings.commands, findings.directories⟩

end StarlarkMacro
