import StarlarkMacro.Script

/-!
# What one operation does

The effect of each writer operation as an equation on states. The equations hold for every sink; where an
operation writes, they name the lines that were stored and the line that was refused, if one was. A pop encodes
the path that it closes once more, so its equations ask for the literal of that path. Later modules work with
these equations and never open an operation again.
-/

namespace StarlarkMacro

/-- A directory by the text of its path, with the line that opens it. -/
structure Directory where
  path : Text
  line : List Char
  deriving DecidableEq, Repr

namespace Sink

/-- The sink after it took some lines. -/
def storing (s : Sink) (lines : List (List Char)) : Sink :=
  { s with stored := s.stored ++ lines, writes := s.writes + lines.length }

/-- The sink after it refused a line. -/
def refusing (s : Sink) : Sink := { s with writes := s.writes + 1 }

def NeverRefuses (s : Sink) : Prop := ∀ n, s.refusesWrite n = false

variable (s : Sink) (lines : List (List Char)) (line : List Char)

@[simp] theorem stored_storing : (s.storing lines).stored = s.stored ++ lines := rfl

@[simp] theorem writes_storing : (s.storing lines).writes = s.writes + lines.length := rfl

@[simp] theorem refusesWrite_storing : (s.storing lines).refusesWrite = s.refusesWrite := rfl

@[simp] theorem storing_nil : s.storing [] = s := by
  simp [storing]

/-- Lines in a row are stored as one list, which is how the loop over the lines that wait is summed up. -/
theorem storing_storing (more : List (List Char)) :
    (s.storing lines).storing more = s.storing (lines ++ more) := by
  simp [storing, Nat.add_assoc]

theorem write_eq : s.write line =
    if s.refusesWrite (s.writes + 1) then (false, s.refusing) else (true, s.storing [line]) := rfl

end Sink

namespace Writer

section Monad

variable {α β : Type} (w : Writer)

/-- A failure passes the rest by and leaves the state as it was when it failed. Every equation below is
worked out by this one. -/
theorem run_bind (x : WriterM α) (f : α → WriterM β) :
    (x >>= f).run w =
      match x.run w with
      | (.ok a, w') => (f a).run w'
      | (.error e, w') => (.error e, w') := by
  change ExceptT.bindCont f (ExceptT.run x w).1 (ExceptT.run x w).2 = _
  rcases ExceptT.run x w with ⟨e | a, s⟩ <;> rfl

/-- A result that is only renamed; the operations of a script rename the results of the writer. -/
theorem run_bind_pure (x : WriterM α) (f : α → β) :
    (do let a ← x; return f a : WriterM β).run w = ((x.run w).1.map f, (x.run w).2) := by
  rw [run_bind]
  rcases x.run w with ⟨e | a, s⟩ <;> rfl

theorem run_pure (a : α) : (pure a : WriterM α).run w = (.ok a, w) := rfl

theorem run_get : (get : WriterM Writer).run w = (.ok w, w) := rfl

theorem run_set (w' : Writer) : (set w' : WriterM PUnit).run w = (.ok ⟨⟩, w') := rfl

theorem run_modify (f : Writer → Writer) :
    (modify f : WriterM PUnit).run w = (.ok ⟨⟩, f w) := rfl

theorem run_throw (e : Failure) : (throw e : WriterM α).run w = (.error e, w) := rfl

theorem run_refuse (e : WriterError) :
    (refuse e : WriterM α).run w = (.error (.contract e), w) := rfl

end Monad

/-- The state with an empty buffer, all that waited being stored. -/
def drained (w : Writer) : Writer :=
  { w with pending := { w.pending with lines := [] }, sink := w.sink.storing w.pending.lines }

/-- The state after a line was stored. -/
def storing (w : Writer) (line : List Char) : Writer := { w with sink := w.sink.storing [line] }

/-- The state after a line was refused. -/
def refusing (w : Writer) : Writer := { w with sink := w.sink.refusing }

/-- The lines of a writer, those that wait behind those that are stored. -/
def text (w : Writer) : List (List Char) := w.sink.stored ++ w.pending.lines

/-- The statement as it is written, whatever the state. -/
def statementLine (statement : List Char) : List Char :=
  StatementBuffer.standardIndent ++ statement ++ ['\n']

section Lines

variable (w : Writer)

theorem run_writeLine (line : List Char) :
    (writeLine line).run w =
      if w.sink.refusesWrite (w.sink.writes + 1) then (.error (.sink .write), w.refusing)
      else (.ok (), w.storing line) := by
  simp only [writeLine, run_bind, run_get, run_set, Sink.write_eq]
  split <;> rfl

/-- Either all lines are stored, or those before the first that is refused. -/
theorem run_writeLines (lines : List (List Char)) :
    (writeLines lines).run w = (.ok (), { w with sink := w.sink.storing lines }) ∨
      ∃ before line after, lines = before ++ line :: after ∧
        w.sink.refusesWrite (w.sink.writes + before.length + 1) = true ∧
        (writeLines lines).run w =
          (.error (.sink .write), { w with sink := (w.sink.storing before).refusing }) := by
  induction lines generalizing w with
  | nil => exact .inl (by simp [writeLines, run_pure])
  | cons line lines ih =>
    simp only [writeLines, run_bind, run_writeLine]
    by_cases hrefused : w.sink.refusesWrite (w.sink.writes + 1) = true
    · exact .inr ⟨[], line, lines, rfl, by simpa using hrefused, by simp [hrefused, refusing]⟩
    · simp only [hrefused, Bool.false_eq_true, if_false]
      obtain hall | ⟨before, next, after, hlines, hnext, hrun⟩ := ih (w.storing line)
      · exact .inl (by rw [hall]; simp [storing, Sink.storing_storing])
      · refine .inr ⟨line :: before, next, after, by rw [hlines]; rfl, ?_, ?_⟩
        · simpa [storing, Nat.add_assoc, Nat.add_comm, Nat.add_left_comm] using hnext
        · rw [hrun]
          simp [storing, Sink.storing_storing]

/-- All that waits is stored, or what stands before the first refused line, and the buffer is empty. -/
theorem run_writePending :
    writePending.run w = (.ok (), w.drained) ∨
      ∃ before line after, w.pending.lines = before ++ line :: after ∧
        w.sink.refusesWrite (w.sink.writes + before.length + 1) = true ∧
        writePending.run w = (.error (.sink .write),
          { w.drained with sink := (w.sink.storing before).refusing }) := by
  simp only [writePending, run_bind, run_get, run_set]
  exact run_writeLines { w with pending := w.pending.drain.2 } w.pending.lines

/-- A statement is not held back by what waits in the buffer; whoever calls this has it written first. -/
theorem run_writeStatement (statement : List Char) :
    (writeStatement statement).run w =
      if w.sink.refusesWrite (w.sink.writes + 1) then (.error (.sink .write), w.refusing)
      else (.ok (), w.storing (w.pending.render statement)) := by
  simp only [writeStatement, run_bind, run_get, run_writeLine]

/-- Nothing sets the indentation of a buffer, so its statements are all rendered alike. -/
theorem render_pending (hindent : w.pending.indent = StatementBuffer.standardIndent)
    (statement : List Char) : w.pending.render statement = statementLine statement := by
  rw [StatementBuffer.render, hindent, statementLine]

end Lines

theorem mapError_error {ε ε' α : Type} (f : ε → ε') (e : ε) :
    (Except.error e : Except ε α).mapError f = .error (f e) := rfl

theorem mapError_ok {ε ε' α : Type} (f : ε → ε') (a : α) :
    (Except.ok a : Except ε α).mapError f = .ok a := rfl

section Refused

variable (w : Writer)

/-- All operations but the one that begins a macro ask for a macro before anything else. -/
theorem run_requireMacro_of_idle (h : w.current = none) (operation : String) :
    (requireMacro operation).run w = (.error (.contract (.noActiveMacro operation)), w) := by
  simp only [requireMacro, run_bind, run_get, h, run_refuse]

theorem run_requireMacro_of_writing {current : List Char} (h : w.current = some current)
    (operation : String) : (requireMacro operation).run w = (.ok current, w) := by
  simp only [requireMacro, run_bind, run_get, h, run_pure]

/-- The macro that is open is checked before the name of the new one. -/
theorem run_beginMacro_of_writing {current : List Char} (h : w.current = some current)
    (name : Value) :
    (beginMacro name).run w =
      (.error (.contract (.nestedMacro (.text (Text.ofChars current) false) name)), w) := by
  simp only [beginMacro, run_bind, run_get, h, run_refuse]

theorem run_beginMacro_of_invalid (h : w.current = none) {name : Value}
    (hname : Identifier.ofValue? name = none) :
    (beginMacro name).run w = (.error (.contract (.invalidIdentifier name)), w) := by
  simp only [beginMacro, run_bind, run_get, h, identifier, hname, run_refuse]

theorem run_popDirectory_of_empty {g : Graph} {current : List Char} (h : w.current = some current)
    (hempty : w.directories = []) :
    (popDirectory g).run w = (.error (.contract .emptyDirectoryStack), w) := by
  simp only [popDirectory, run_bind, run_requireMacro_of_writing w h, run_get, hempty,
    List.getLast?_nil, run_refuse]

/-- A path is encoded before anything changes, so a push that is refused leaves no trace. -/
theorem run_pushDirectory_of_error {current : List Char} (h : w.current = some current)
    {g : Graph} {path : Value} {e : EncodingError} (he : pathLiteral g path = .error e) :
    (pushDirectory g path).run w = (.error (.contract (.encoding (e.under 0))), w) := by
  simp only [pushDirectory, run_bind, run_requireMacro_of_writing w h, he, mapError_error,
    orRefuse, run_refuse]

/-- The name of a command is checked before what waits is written, unlike its arguments. -/
theorem run_writeCommand_of_invalid {current : List Char} (h : w.current = some current)
    {g : Graph} {name : Value} (hname : Identifier.ofValue? name = none)
    (arguments : List Value) :
    (writeCommand g name arguments).run w = (.error (.contract (.invalidIdentifier name)), w) := by
  simp only [writeCommand, run_bind, run_requireMacro_of_writing w h, identifier, hname, run_refuse]

end Refused

/-! ## Open directories -/

/-- The directory that the literal of a path opens. -/
def directoryOf (path : Text × List Char) : Directory :=
  ⟨path.1, statementLine (pushStatement path.2)⟩

/-- The directory that a path opens. No line opens a path without a literal. -/
def directoryAt (g : Graph) (path : Value) : Directory :=
  match pathLiteral g path with
  | .ok literal => directoryOf literal
  | .error _ => ⟨pathText path, []⟩

/-- The open directories, each with the line that the path it is kept by is encoded to. -/
def opened (g : Graph) (w : Writer) : List Directory := w.directories.map (directoryAt g)

/-- The path that is kept last has a literal, and this is its directory. -/
def Innermost (g : Graph) (w : Writer) (d : Directory) : Prop :=
  ∃ path literal, w.directories.getLast? = some path ∧ pathLiteral g path = .ok literal ∧
    d = directoryOf literal

section Directories

variable {g : Graph} {w : Writer} {path : Value} {literal : Text × List Char} {d : Directory}

theorem directoryAt_of_ok (h : pathLiteral g path = .ok literal) :
    directoryAt g path = directoryOf literal := by
  rw [directoryAt, h]

/-- The path of a directory is its text, with or without a literal. -/
@[simp] theorem path_directoryAt (g : Graph) (path : Value) :
    (directoryAt g path).path = pathText path := by
  unfold directoryAt pathLiteral pathText
  cases path.text? with
  | none => rfl
  | some t => cases Literal.marshal g path <;> rfl

/-- What the writer tells of its open directories are the paths of these. -/
@[simp] theorem map_path_opened (g : Graph) (w : Writer) :
    (w.opened g).map Directory.path = w.paths := by
  simp [opened, paths, Function.comp_def]

@[simp] theorem opened_eq_nil_iff : w.opened g = [] ↔ w.directories = [] := List.map_eq_nil_iff

/-- The innermost directory is the last that is open. -/
theorem Innermost.getLast?_opened (h : w.Innermost g d) : (w.opened g).getLast? = some d := by
  obtain ⟨path, literal, hlast, hpath, rfl⟩ := h
  rw [opened, List.getLast?_map, hlast, Option.map_some, directoryAt_of_ok hpath]

theorem Innermost.exists_opened_eq (h : w.Innermost g d) : ∃ outer, w.opened g = outer ++ [d] :=
  List.getLast?_eq_some_iff.1 h.getLast?_opened

theorem Innermost.exists_path (h : w.Innermost g d) : ∃ path, w.directories.getLast? = some path := by
  obtain ⟨path, -, hlast, -⟩ := h
  exact ⟨path, hlast⟩

/-- A pop hands out the text of the path that it takes off the stack. -/
theorem Innermost.pathText_eq (h : w.Innermost g d) (hlast : w.directories.getLast? = some path) :
    pathText path = d.path := by
  obtain ⟨kept, literal, hkept, hpath, rfl⟩ := h
  obtain rfl : path = kept := Option.some.inj (hlast.symm.trans hkept)
  rw [← directoryAt_of_ok hpath, path_directoryAt]

end Directories

/-! ## Operations that are not refused -/

/-- The state after a macro was begun. -/
def begun (w : Writer) (name : List Char) : Writer :=
  { w with
    pending := w.pending.defer (header name)
    current := some name
    log := w.log ++ [.began name] }

/-- The state after a directory was opened. -/
def pushed (g : Graph) (w : Writer) (path : Value) : Writer :=
  { w with
    directories := w.directories ++ [path]
    pending := w.pending.defer (directoryAt g path).line }

/-- The state after the innermost directory was closed by withdrawing its push. -/
def withdrawn (w : Writer) (current : List Char) (d : Directory) : Writer :=
  { w with
    directories := w.directories.dropLast
    pending := { w.pending with lines := w.pending.lines.dropLast }
    log := w.log ++ [.elided d.path current] }

/-- The state after the innermost directory was taken off the stack. -/
def left (w : Writer) : Writer := { w with directories := w.directories.dropLast }

/-- The state after the final line of a macro was stored. -/
def ended (w : Writer) (current : List Char) : Writer :=
  { w with
    current := none
    directories := []
    log := w.log ++ (if w.paths.isEmpty then [] else [.leftOpen current w.paths]) ++
      [.ended current] }

section Opened

variable (g : Graph) (w : Writer)

@[simp] theorem opened_pushed (path : Value) :
    (w.pushed g path).opened g = w.opened g ++ [directoryAt g path] := List.map_append

@[simp] theorem opened_withdrawn (current : List Char) (d : Directory) :
    (w.withdrawn current d).opened g = (w.opened g).dropLast := List.map_dropLast

@[simp] theorem opened_left : w.left.opened g = (w.opened g).dropLast := List.map_dropLast

@[simp] theorem opened_drained : w.drained.opened g = w.opened g := rfl

@[simp] theorem opened_storing (line : List Char) : (w.storing line).opened g = w.opened g := rfl

end Opened

section Accepted

variable (w : Writer)

theorem run_beginMacro_of_valid (h : w.current = none) {name : Value} {sanitized : List Char}
    (hname : Identifier.ofValue? name = some sanitized) :
    (beginMacro name).run w = (.ok (), w.begun sanitized) := by
  simp only [beginMacro, run_bind, run_get, h, identifier, hname, run_pure, defer, run_modify,
    logRecord, begun]

/-- A push waits: nothing is written before its pop or the next command decides what becomes of it. -/
theorem run_pushDirectory_of_ok {current : List Char} (h : w.current = some current)
    (hindent : w.pending.indent = StatementBuffer.standardIndent)
    {g : Graph} {path : Value} {literal : Text × List Char}
    (hpath : pathLiteral g path = .ok literal) :
    (pushDirectory g path).run w = (.ok (), w.pushed g path) := by
  simp only [pushDirectory, run_bind, run_requireMacro_of_writing w h, hpath, mapError_ok,
    orRefuse, run_pure, run_get, run_modify, defer, pushed, directoryAt_of_ok hpath, directoryOf,
    render_pending w hindent]

/-- A pop encodes its path when the path is already off the stack. If the path had no literal then, the pop
would be refused behind the change. -/
theorem run_popDirectory_of_error {current : List Char} (h : w.current = some current)
    {g : Graph} {path : Value} (hd : w.directories.getLast? = some path) {e : EncodingError}
    (he : pathLiteral g path = .error e) :
    (popDirectory g).run w = (.error (.contract (.encoding e)), w.left) := by
  simp only [popDirectory, run_bind, run_requireMacro_of_writing w h, run_get, hd, run_set, he,
    orRefuse, run_refuse, left]

variable {g : Graph} {d : Directory}

/-- A pop whose push waits last withdraws it. -/
theorem run_popDirectory_of_waiting {current : List Char} (h : w.current = some current)
    (hindent : w.pending.indent = StatementBuffer.standardIndent) (hd : w.Innermost g d)
    (hlast : w.pending.lines.getLast? = some d.line) :
    (popDirectory g).run w = (.ok d.path, w.withdrawn current d) := by
  obtain ⟨path, literal, hkept, hpath, rfl⟩ := hd
  have hline : w.pending.render (pushStatement literal.2) = (directoryOf literal).line :=
    render_pending w hindent _
  simp only [popDirectory, run_bind, run_requireMacro_of_writing w h, run_get, hkept, run_set, hpath,
    orRefuse, hline, StatementBuffer.cancelLast, hlast, if_true, logRecord, run_modify, run_pure,
    withdrawn]
  rfl

/-- Any other pop writes what waits and then a line of its own. -/
theorem run_popDirectory_of_not_waiting {current : List Char} (h : w.current = some current)
    (hindent : w.pending.indent = StatementBuffer.standardIndent) (hd : w.Innermost g d)
    (hlast : w.pending.lines.getLast? ≠ some d.line) :
    (popDirectory g).run w =
      (do writePending; writeStatement popStatement; return d.path : WriterM Text).run w.left := by
  obtain ⟨path, literal, hkept, hpath, rfl⟩ := hd
  have hline : w.pending.render (pushStatement literal.2) = (directoryOf literal).line :=
    render_pending w hindent _
  simp only [popDirectory, run_bind, run_requireMacro_of_writing w h, run_get, hkept, run_set, hpath,
    orRefuse, hline, StatementBuffer.cancelLast_of_getLast?_ne _ _ hlast, Bool.false_eq_true, if_false,
    run_modify, run_pure, left]
  rfl

/-- What waits is written before the arguments are encoded, so it stays written if one of them is refused.
-/
theorem run_writeCommand_of_valid {current : List Char} (h : w.current = some current)
    {g : Graph} {name : Value} {sanitized : List Char}
    (hname : Identifier.ofValue? name = some sanitized) (arguments : List Value) :
    (writeCommand g name arguments).run w =
      (do
        writePending
        let literals ← orRefuse (argumentLiterals g 1 arguments)
        writeStatement (callStatement sanitized literals) : WriterM Unit).run w := by
  simp only [writeCommand, run_bind, run_requireMacro_of_writing w h, identifier, hname, run_pure]

/-- The macro counts as ended once its last line is stored, before the sink is flushed. -/
theorem run_endMacro {current : List Char} (h : w.current = some current) :
    endMacro.run w =
      match (do writePending; writeStatement returnStatement : WriterM Unit).run w with
      | (.error e, w') => (.error e, w')
      | (.ok (), w') => flushSink.run (w'.ended current) := by
  simp only [endMacro, run_bind, run_requireMacro_of_writing w h]
  rcases writePending.run w with ⟨e | _, w₁⟩
  · rfl
  · simp only
    rcases (writeStatement returnStatement).run w₁ with ⟨e | _, w₂⟩
    · rfl
    · simp only [run_get, ended]
      cases hpaths : w₂.paths.isEmpty
      · simp [run_bind, logRecord, run_modify]
      · have hempty : w₂.directories = [] := by simpa [paths] using hpaths
        simp [run_bind, logRecord, run_modify, ← hempty]

end Accepted

/-! ## A sink that never refuses -/

section NeverRefuses

variable (w : Writer)

theorem run_writePending_of_neverRefuses (h : w.sink.NeverRefuses) :
    writePending.run w = (.ok (), w.drained) := by
  obtain hrun | ⟨before, _, _, _, hrefused, _⟩ := run_writePending w
  · exact hrun
  · rw [h] at hrefused
    cases hrefused

theorem run_writeStatement_of_neverRefuses (h : w.sink.NeverRefuses)
    (hindent : w.pending.indent = StatementBuffer.standardIndent) (statement : List Char) :
    (writeStatement statement).run w = (.ok (), w.storing (statementLine statement)) := by
  rw [run_writeStatement, h, if_neg Bool.false_ne_true, render_pending w hindent]

theorem run_popDirectory_of_neverRefuses {current : List Char} (h : w.current = some current)
    (hsink : w.sink.NeverRefuses) (hindent : w.pending.indent = StatementBuffer.standardIndent)
    {g : Graph} {d : Directory} (hd : w.Innermost g d)
    (hlast : w.pending.lines.getLast? ≠ some d.line) :
    (popDirectory g).run w = (.ok d.path, w.left.drained.storing (statementLine popStatement)) := by
  rw [run_popDirectory_of_not_waiting w h hindent hd hlast]
  simp only [run_bind, run_writePending_of_neverRefuses w.left hsink,
    run_writeStatement_of_neverRefuses w.left.drained hsink hindent, run_pure]

theorem run_writeCommand_of_ok {current : List Char} (h : w.current = some current)
    (hsink : w.sink.NeverRefuses) (hindent : w.pending.indent = StatementBuffer.standardIndent)
    {g : Graph} {name : Value} {sanitized : List Char}
    (hname : Identifier.ofValue? name = some sanitized) {arguments : List Value}
    {literals : List (List Char)} (hliterals : argumentLiterals g 1 arguments = .ok literals) :
    (writeCommand g name arguments).run w =
      (.ok (), w.drained.storing (statementLine (callStatement sanitized literals))) := by
  rw [run_writeCommand_of_valid w h hname]
  simp only [run_bind, run_writePending_of_neverRefuses w hsink, hliterals, orRefuse, run_pure,
    run_writeStatement_of_neverRefuses w.drained hsink hindent]

/-- The refused command leaves a mark: the pushes that waited are written for good. -/
theorem run_writeCommand_of_error {current : List Char} (h : w.current = some current)
    (hsink : w.sink.NeverRefuses) {g : Graph} {name : Value} {sanitized : List Char}
    (hname : Identifier.ofValue? name = some sanitized) {arguments : List Value}
    {e : EncodingError} (he : argumentLiterals g 1 arguments = .error e) :
    (writeCommand g name arguments).run w = (.error (.contract (.encoding e)), w.drained) := by
  rw [run_writeCommand_of_valid w h hname]
  simp only [run_bind, run_writePending_of_neverRefuses w hsink, he, orRefuse, run_refuse]

/-- The end of a macro stores its last line even if the flush behind it is refused. -/
theorem run_endMacro_of_neverRefuses {current : List Char} (h : w.current = some current)
    (hsink : w.sink.NeverRefuses) (hindent : w.pending.indent = StatementBuffer.standardIndent) :
    endMacro.run w =
      flushSink.run ((w.drained.storing (statementLine returnStatement)).ended current) := by
  simp only [run_endMacro w h, run_bind, run_writePending_of_neverRefuses w hsink,
    run_writeStatement_of_neverRefuses w.drained hsink hindent]

/-- A flush is counted whether or not it is refused, and no line depends on it. -/
theorem run_flushSink :
    flushSink.run w =
      (if w.sink.refusesFlush (w.sink.flushes + 1) then .error (.sink .flush) else .ok (),
        { w with sink := w.sink.flush.2 }) := by
  simp only [flushSink, run_bind, run_get, run_set, Sink.flush]
  by_cases h : w.sink.refusesFlush (w.sink.flushes + 1) = true
  · simp only [h, Bool.not_true, Bool.false_eq_true, if_false, if_true, run_throw]
  · simp only [h, Bool.not_false, Bool.false_eq_true, if_false, if_true, run_pure]

end NeverRefuses

end Writer

/-! ## Without a macro -/

namespace Operation

open Writer

/-- The name under which an operation asks for a macro, if it needs one. -/
def needsMacro? : Operation → Option String
  | endMacro => some "end_macro"
  | pushDirectory _ => some "push_directory"
  | popDirectory => some "pop_directory"
  | writeCommand .. => some "write_command"
  | beginMacro _ | raise _ => none

/-- What needs a macro is refused without one, whatever its arguments. -/
theorem run_of_idle {g : Graph} {w : Writer} (hcurrent : w.current = none) {op : Operation}
    {name : String} (hop : op.needsMacro? = some name) :
    (op.run g).run w = (.error (.contract (.noActiveMacro name)), w) := by
  cases op with
  | beginMacro _ => cases hop
  | raise _ => cases hop
  | endMacro | pushDirectory _ | popDirectory | writeCommand _ _ =>
    cases hop
    simp only [Operation.run, Writer.endMacro, Writer.pushDirectory, Writer.popDirectory,
      Writer.writeCommand, run_bind, run_requireMacro_of_idle w hcurrent]

end Operation

end StarlarkMacro
