import StarlarkMacro.Proofs.Writer.Failing
import StarlarkMacro.Proofs.Writer.History

/-!
# What one operation can do

On a sink that stores every line an operation either fails for its fault or makes one of six changes. What is
said about the directories that a run opens and closes, about its text and about its log follows from this one
list of cases.
-/

namespace StarlarkMacro

open Writer

/-- What becomes of an operation in a state, and the state it leaves. -/
inductive Transition (g : Graph) (w : Writer) :
    Operation → Except Failure StepResult → Writer → Prop
  | begun {name : Value} {used : List Char} (hcurrent : w.current = none)
      (hname : Identifier.ofValue? name = some used) :
      Transition g w (.beginMacro name) (.ok .nothing) (w.begun used)
  /-- The macro has ended even if the flush behind it is refused. -/
  | ended {current : List Char} {outcome : Except Failure StepResult} {later : Writer}
      (hcurrent : w.current = some current)
      (houtcome : outcome = .ok .nothing ∨ outcome = .error (.sink .flush))
      (hlater : later = { (w.drained.storing MacroHistory.returnLine).ended current with
        sink := (w.drained.storing MacroHistory.returnLine).sink.flush.2 }) :
      Transition g w .endMacro outcome later
  | pushed {current : List Char} {path : Value} {literal : Text × List Char}
      (hcurrent : w.current = some current) (hpath : pathLiteral g path = .ok literal) :
      Transition g w (.pushDirectory path) (.ok .nothing) (w.pushed g path)
  | withdrawn {current : List Char} {d : Directory} (hcurrent : w.current = some current)
      (hd : w.Innermost g d) (hwaits : w.pending.lines.getLast? = some d.line) :
      Transition g w .popDirectory (.ok (.path d.path)) (w.withdrawn current d)
  | popped {current : List Char} {d : Directory} (hcurrent : w.current = some current)
      (hd : w.Innermost g d) (hwaits : w.pending.lines.getLast? ≠ some d.line) :
      Transition g w .popDirectory (.ok (.path d.path))
        (w.left.drained.storing (statementLine popStatement))
  | commanded {current : List Char} {name : Value} {arguments : List Value} {method : List Char}
      {literals : List (List Char)} (hcurrent : w.current = some current)
      (hname : Identifier.ofValue? name = some method)
      (hliterals : argumentLiterals g 1 arguments = .ok literals) :
      Transition g w (.writeCommand name arguments) (.ok .nothing)
        (w.drained.storing (statementLine (callStatement method literals)))
  | failed {op : Operation} {e : Failure} (hfault : op.Fault g w e) :
      Transition g w op (.error e) (op.leaves w e)

namespace Operation

variable (w : Writer) (op : Operation) (e : Failure)

/-- Whatever was written before an operation failed, the directories that were open are open still. -/
theorem directories_leaves : (op.leaves w e).directories = w.directories := by
  unfold leaves
  split <;> rfl

theorem log_leaves : (op.leaves w e).log = w.log := by
  unfold leaves
  split <;> rfl

end Operation

namespace Transition

variable {g : Graph} {w : Writer}

/-- An operation that fails is a transition as well, to what it leaves on a sink that takes every line. -/
theorem of_fault {op : Operation} {e : Failure} (hfault : op.Fault g w e)
    (hsink : w.sink.NeverRefuses) :
    Transition g w op ((op.run g).run w).1 ((op.run g).run w).2 := by
  rw [hfault.run_eq hsink]
  exact .failed hfault

section Writing

variable {current : List Char} (hcurrent : w.current = some current)
  (hsink : w.sink.NeverRefuses) (hw : w.IsSound g)

include hcurrent hsink hw

theorem of_endMacro :
    Transition g w .endMacro ((Operation.endMacro.run g).run w).1
      ((Operation.endMacro.run g).run w).2 := by
  have hrun := run_endMacro_of_neverRefuses w hcurrent hsink hw.indent
  rw [run_flushSink] at hrun
  rw [Operation.run, run_bind_pure, hrun]
  refine .ended hcurrent ?_ rfl
  split
  · exact .inr rfl
  · exact .inl rfl

theorem of_pushDirectory (path : Value) :
    Transition g w (.pushDirectory path) (((Operation.pushDirectory path).run g).run w).1
      (((Operation.pushDirectory path).run g).run w).2 := by
  cases htext : path.text? with
  | none => exact of_fault (.pathNotText hcurrent htext) hsink
  | some t =>
    cases hmarshal : Literal.marshal g path with
    | error e => exact of_fault (.path hcurrent htext hmarshal) hsink
    | ok literal =>
      have hpath : pathLiteral g path = .ok (t, literal) := by
        rw [pathLiteral_of_text htext, hmarshal]
        rfl
      rw [Operation.run, run_bind_pure, run_pushDirectory_of_ok w hcurrent hw.indent hpath]
      exact .pushed hcurrent hpath

theorem of_popDirectory :
    Transition g w .popDirectory ((Operation.popDirectory.run g).run w).1
      ((Operation.popDirectory.run g).run w).2 := by
  cases hkept : w.directories.getLast? with
  | none =>
    exact of_fault (.emptyDirectoryStack hcurrent (List.getLast?_eq_none_iff.1 hkept)) hsink
  | some path =>
    obtain ⟨d, hd⟩ := hw.exists_innermost hkept
    rw [Operation.run, run_bind_pure]
    by_cases hwaits : w.pending.lines.getLast? = some d.line
    · rw [run_popDirectory_of_waiting w hcurrent hw.indent hd hwaits]
      exact .withdrawn hcurrent hd hwaits
    · rw [run_popDirectory_of_neverRefuses w hcurrent hsink hw.indent hd hwaits]
      exact .popped hcurrent hd hwaits

theorem of_writeCommand (name : Value) (arguments : List Value) :
    Transition g w (.writeCommand name arguments)
      (((Operation.writeCommand name arguments).run g).run w).1
      (((Operation.writeCommand name arguments).run g).run w).2 := by
  cases hname : Identifier.isValidValue name with
  | false => exact of_fault (.commandName hcurrent hname arguments) hsink
  | true =>
    obtain ⟨method, hmethod⟩ := Identifier.isValidValue_eq_true_iff.1 hname
    cases hliterals : argumentLiterals g 1 arguments with
    | error e =>
      obtain ⟨before, cause, harguments, rfl⟩ := argumentLiterals_eq_error_iff.1 hliterals
      exact of_fault (.argument hcurrent hname harguments) hsink
    | ok literals =>
      rw [Operation.run, run_bind_pure,
        run_writeCommand_of_ok w hcurrent hsink hw.indent hmethod hliterals]
      exact .commanded hcurrent hmethod hliterals

end Writing

/-- Every operation makes a transition. -/
theorem of_run (hsink : w.sink.NeverRefuses) (hw : w.IsSound g) (op : Operation) :
    Transition g w op ((op.run g).run w).1 ((op.run g).run w).2 := by
  cases hcurrent : w.current with
  | none =>
    cases op with
    | endMacro | pushDirectory _ | popDirectory | writeCommand _ _ =>
      exact of_fault (.noActiveMacro hcurrent rfl) hsink
    | raise message => exact of_fault (.raised message) hsink
    | beginMacro name =>
      cases hname : Identifier.isValidValue name with
      | false => exact of_fault (.macroName hcurrent hname) hsink
      | true =>
        obtain ⟨used, hused⟩ := Identifier.isValidValue_eq_true_iff.1 hname
        rw [Operation.run, run_bind_pure, run_beginMacro_of_valid w hcurrent hused]
        exact .begun hcurrent hused
  | some current =>
    cases op with
    | beginMacro name => exact of_fault (.nestedMacro hcurrent name) hsink
    | endMacro => exact of_endMacro hcurrent hsink hw
    | pushDirectory path => exact of_pushDirectory hcurrent hsink hw path
    | popDirectory => exact of_popDirectory hcurrent hsink hw
    | writeCommand name arguments => exact of_writeCommand hcurrent hsink hw name arguments
    | raise message => exact of_fault (.raised message) hsink

end Transition

/-! ## Directories opened and closed -/

namespace Record

/-- The directory that a call has opened. -/
def pushed? (r : Record) : Option Text :=
  match r.action, r.outcome with
  | .operation (.pushDirectory path), .ok _ => path.text?
  | _, _ => none

/-- The directory that a call has closed. -/
def popped? (r : Record) : Option Text :=
  match r.action, r.outcome with
  | .operation .popDirectory, .ok (.path path) => some path
  | _, _ => none

section

variable (op : Operation) (arguments : List Value) (e : Failure) (own : Bool) (w : Writer)

/-- A call that fails opens no directory. -/
theorem pushed?_of_error :
    (Script.record (.operation op) arguments (.error e) own w).pushed? = none := by
  cases op <;> rfl

theorem popped?_of_error :
    (Script.record (.operation op) arguments (.error e) own w).popped? = none := by
  cases op <;> rfl

end

end Record

end StarlarkMacro
