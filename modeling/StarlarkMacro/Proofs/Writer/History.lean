import StarlarkMacro.Proofs.Writer.Event

/-!
# Histories

The history of a run says what happened since each macro was begun, as events and without a buffer. It is
told by the records of the run alone: by each operation and how it ended.
-/

namespace StarlarkMacro

/-- A macro by its name and what has happened in it. -/
structure MacroHistory where
  name : List Char
  events : List Event
  deriving DecidableEq

namespace MacroHistory

open Writer

def returnLine : List Char := statementLine returnStatement

/-- The lines of events in normal form, behind the header. -/
def linesOf (name : List Char) (left : List Event) : List (List Char) :=
  header name :: Event.lines left

/-- The lines of the macro so far, whether stored or waiting. -/
def lines (m : MacroHistory) : List (List Char) := linesOf m.name (Event.reduce m.events)

/-- All lines of a macro that has ended. -/
def finishedLines (m : MacroHistory) : List (List Char) := m.lines ++ [returnLine]

end MacroHistory

/-- The macros that have ended, oldest first, and the one that is being written. -/
structure History where
  finished : List MacroHistory
  current : Option MacroHistory

namespace History

open Writer

def empty : History := ⟨[], none⟩

/-- The event behind the events of the current macro. -/
def add (h : History) (e : Event) : History :=
  { h with current := h.current.map fun m ↦ { m with events := m.events ++ [e] } }

/-- A command whose name and arguments are good. -/
def commandOf (g : Graph) (name : Value) (arguments : List Value) : Event :=
  match Identifier.ofValue? name, argumentLiterals g 1 arguments with
  | some method, .ok literals => .command method literals
  | _, _ => .mark

/-- The history after an operation, told by how the operation ended. An end whose flush was refused has
ended its macro all the same. -/
def after (g : Graph) (h : History) : Operation → Except Failure StepResult → History
  | .beginMacro name, .ok _ =>
    { h with current := some ⟨(Identifier.ofValue? name).getD [], []⟩ }
  | .endMacro, .ok _ | .endMacro, .error (.sink .flush) => ⟨h.finished ++ h.current.toList, none⟩
  | .pushDirectory path, .ok _ => h.add (.push (directoryAt g path))
  | .popDirectory, .ok _ => h.add .pop
  | .writeCommand name arguments, .ok _ => h.add (commandOf g name arguments)
  | .writeCommand .., .error (.contract (.encoding _)) => h.add .mark
  | _, _ => h

def afterRecord (g : Graph) (h : History) (r : Record) : History :=
  match r.action with
  | .operation op => h.after g op r.outcome
  | _ => h

def ofRecords (g : Graph) (records : List Record) : History :=
  records.foldl (afterRecord g) empty

/-- A history grows at its end, by what the last record tells. Inductions over runs use it from the right.
-/
theorem ofRecords_append_singleton (g : Graph) (records : List Record) (r : Record) :
    ofRecords g (records ++ [r]) = (ofRecords g records).afterRecord g r := by
  simp [ofRecords]

/-- The lines of all macros that have ended. -/
def finishedLines (h : History) : List (List Char) := h.finished.flatMap MacroHistory.finishedLines

end History

namespace Script

/-- Operations one after the other, whatever becomes of each. -/
def runOperations (g : Graph) (ops : List Operation) (w : Writer) : List Record × Writer :=
  run g (ops.map fun op ↦ .operation op false) w

/-- Operations on a new writer whose sink takes every line. -/
def freshRun (g : Graph) (refusesFlush : Nat → Bool) (ops : List Operation) :
    List Record × Writer :=
  runOperations g ops (Writer.new (.empty (fun _ ↦ false) refusesFlush))

/-- Steps in a row: the writer is passed on and the records are put together. -/
theorem run_append (g : Graph) (steps more : List Step) (w : Writer) :
    run g (steps ++ more) w =
      ((run g steps w).1 ++ (run g more (run g steps w).2).1, (run g more (run g steps w).2).2) := by
  induction steps generalizing w with
  | nil => simp [run]
  | cons step steps ih => simp [run, ih]

/-- The record of an operation. -/
def recordOf (g : Graph) (op : Operation) (w : Writer) : Record :=
  record (.operation op) op.arguments ((op.run g).run w).1 true ((op.run g).run w).2

/-- An operation is recorded whatever its outcome, and fails as a step if it fails. -/
theorem runStep_operation (g : Graph) (op : Operation) (caught : Bool) (w : Writer) :
    runStep g (.operation op caught) w =
      ([recordOf g op w], failure? ((op.run g).run w).1, ((op.run g).run w).2) := rfl

theorem runOperations_cons (g : Graph) (op : Operation) (ops : List Operation) (w : Writer) :
    (runOperations g (op :: ops) w).2 = (runOperations g ops ((op.run g).run w).2).2 := rfl

/-- One more operation on the writer that a run leaves behind. -/
theorem runOperations_append_singleton (g : Graph) (ops : List Operation) (op : Operation)
    (w : Writer) :
    runOperations g (ops ++ [op]) w =
      ((runOperations g ops w).1 ++ [recordOf g op (runOperations g ops w).2],
        ((op.run g).run (runOperations g ops w).2).2) := by
  simp [runOperations, run_append, run, runStep_operation]

end Script

namespace MacroHistory

theorem linesOf_append (name : List Char) (left more : List Event) :
    linesOf name (left ++ more) = linesOf name left ++ Event.lines more := by
  simp [linesOf, Event.lines_append]

end MacroHistory

end StarlarkMacro
