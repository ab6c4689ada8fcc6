import StarlarkMacro.Proofs.Writer.Reachable

/-!
# One call on two sinks

A call is compared with the same call on a sink that takes everything. A call that is not refused leaves
both sinks with the same additional lines. A refused call leaves the buffer empty, so the lines behind the
refused one are nowhere, and a refused pop has left its directory all the same.
-/

namespace StarlarkMacro

namespace Sink

/-- The sink after it took some lines and, perhaps, a flush behind them. -/
def taking (s : Sink) (lines : List (List Char)) (flushed : Bool) : Sink :=
  if flushed then (s.storing lines).flush.2 else s.storing lines

variable (s : Sink) (lines : List (List Char)) (flushed : Bool)

@[simp] theorem taking_false : s.taking lines false = s.storing lines := rfl

@[simp] theorem stored_taking : (s.taking lines flushed).stored = s.stored ++ lines := by
  cases flushed <;> rfl

@[simp] theorem refusesWrite_taking : (s.taking lines flushed).refusesWrite = s.refusesWrite := by
  cases flushed <;> rfl

end Sink

namespace Writer

/-- The same state on another sink. -/
def on (w : Writer) (s : Sink) : Writer := { w with sink := s }

/-- The state after a line was refused behind some of the lines that waited. -/
def broken (w : Writer) (before : List (List Char)) : Writer :=
  { w.drained with sink := (w.sink.storing before).refusing }

section Sinks

variable (w : Writer) (s : Sink)

@[simp] theorem on_sink : w.on w.sink = w := rfl

@[simp] theorem sink_on : (w.on s).sink = s := rfl

/-- There is nothing left to wait after what waits was written. -/
@[simp] theorem drained_drained : w.drained.drained = w.drained := by
  simp [drained]

/-- What waits and one line behind it, put on the sink of the same writer. -/
theorem storing_drained (line : List Char) :
    w.drained.storing line = w.drained.on (w.sink.storing (w.pending.lines ++ [line])) := by
  simp [drained, storing, on, Sink.storing_storing]

variable (before : List (List Char))

@[simp] theorem stored_broken : (w.broken before).sink.stored = w.sink.stored ++ before := rfl

@[simp] theorem writes_broken :
    (w.broken before).sink.writes = w.sink.writes + before.length + 1 := rfl

@[simp] theorem refusesWrite_broken :
    (w.broken before).sink.refusesWrite = w.sink.refusesWrite := rfl

@[simp] theorem current_broken : (w.broken before).current = w.current := rfl

end Sinks

/-- A write is refused behind the first of the lines that wait, all of them at most. -/
def RefusesBehind (w : Writer) (before : List (List Char)) : Prop :=
  before <+: w.pending.lines ∧ w.sink.refusesWrite (w.sink.writes + before.length + 1) = true

/-- All that waits is stored, or a line is refused and what stands behind it is gone. -/
theorem run_writePending_cases (w : Writer) :
    writePending.run w = (.ok (), w.drained) ∨
      ∃ before, w.RefusesBehind before ∧
        writePending.run w = (.error (.sink .write), w.broken before) := by
  obtain hrun | ⟨before, line, after, hlines, hrefused, hrun⟩ := run_writePending w
  · exact .inl hrun
  · exact .inr ⟨before, ⟨⟨line :: after, hlines.symm⟩, hrefused⟩, hrun⟩

/-- The same with a statement behind what waits. -/
theorem run_writeStatement_cases (w : Writer)
    (hindent : w.pending.indent = StatementBuffer.standardIndent) (statement : List Char) :
    (do writePending; writeStatement statement : WriterM Unit).run w =
        (.ok (), w.drained.storing (statementLine statement)) ∨
      ∃ before, w.RefusesBehind before ∧
        (do writePending; writeStatement statement : WriterM Unit).run w =
          (.error (.sink .write), w.broken before) := by
  rw [run_bind]
  obtain hrun | ⟨before, hbefore, hrun⟩ := run_writePending_cases w
  · simp only [hrun, run_writeStatement]
    by_cases hrefused : w.drained.sink.refusesWrite (w.drained.sink.writes + 1) = true
    · refine .inr ⟨w.pending.lines, ⟨List.prefix_refl _, ?_⟩, ?_⟩
      · simpa [drained] using hrefused
      · rw [if_pos hrefused]
        rfl
    · refine .inl ?_
      rw [if_neg hrefused, render_pending w.drained hindent]
  · exact .inr ⟨before, hbefore, by rw [hrun]⟩

end Writer

namespace Operation

/-- Whether a call closes a directory. -/
def isPop : Operation → Bool
  | popDirectory => true
  | _ => false

theorem eq_popDirectory_of_isPop {op : Operation} (h : op.isPop = true) : op = popDirectory := by
  cases op <;> first | rfl | cases h

/-- The calls that write: what they need to come as far as their first line. -/
inductive Writes (g : Graph) (w : Writer) : Operation → Prop
  | endMacro {current : List Char} (hcurrent : w.current = some current) : Writes g w endMacro
  | popDirectory {current : List Char} {d : Directory} (hcurrent : w.current = some current)
      (hd : w.Innermost g d) (hlast : w.pending.lines.getLast? ≠ some d.line) :
      Writes g w popDirectory
  | writeCommand {current : List Char} {name : Value} {sanitized : List Char}
      (hcurrent : w.current = some current) (hname : Identifier.ofValue? name = some sanitized)
      (arguments : List Value) : Writes g w (writeCommand name arguments)

/-- The macro that is being written after a call whose lines are all taken. -/
def currentAfter : Operation → Option (List Char) → Option (List Char)
  | beginMacro name, none => Identifier.ofValue? name
  | endMacro, _ => none
  | _, current => current

/-- What holds of the state that a call leaves if its lines are taken, whatever it wrote: the macro that is
being written follows from the one before, and the lines that did not wait before have characters. -/
structure Follows (op : Operation) (w later : Writer) : Prop where
  current : later.current = op.currentAfter w.current
  lines : ∀ line ∈ later.pending.lines, line ∈ w.pending.lines ∨ line ≠ []

section Follows

variable {op : Operation} {w : Writer}

theorem Follows.same (h : op.currentAfter w.current = w.current) : op.Follows w w :=
  ⟨h.symm, fun _ hline ↦ .inl hline⟩

/-- Where nothing waits any more, only the macro that is being written is to be compared. -/
theorem Follows.of_empty {later : Writer} (hcurrent : later.current = op.currentAfter w.current)
    (hempty : later.pending.lines = []) : op.Follows w later := by
  refine ⟨hcurrent, fun line hline ↦ ?_⟩
  rw [hempty] at hline
  cases hline

theorem Follows.begun {name : Value} {sanitized : List Char} (hcurrent : w.current = none)
    (hname : Identifier.ofValue? name = some sanitized) :
    (beginMacro name).Follows w (w.begun sanitized) := by
  refine ⟨?_, fun line hline ↦ ?_⟩
  · rw [hcurrent, currentAfter, hname]
    rfl
  · simp only [Writer.begun, StatementBuffer.lines_defer, List.mem_append, List.mem_singleton] at hline
    obtain hline | rfl := hline
    · exact .inl hline
    · exact .inr (by simp [Writer.header])

theorem Follows.pushed {g : Graph} {path : Value} {literal : Text × List Char}
    (hpath : Writer.pathLiteral g path = .ok literal) :
    (pushDirectory path).Follows w (w.pushed g path) := by
  refine ⟨rfl, fun line hline ↦ ?_⟩
  simp only [Writer.pushed, Writer.directoryAt_of_ok hpath, StatementBuffer.lines_defer,
    List.mem_append, List.mem_singleton] at hline
  obtain hline | rfl := hline
  · exact .inl hline
  · exact .inr (by simp [Writer.directoryOf, Writer.statementLine])

theorem Follows.withdrawn (current : List Char) (d : Directory) :
    popDirectory.Follows w (w.withdrawn current d) :=
  ⟨rfl, fun _ hline ↦ .inl ((List.dropLast_sublist _).subset hline)⟩

end Follows

/-- A call that ends in the same way on every sink and leaves the sink alone. -/
def IsSilent (g : Graph) (op : Operation) (w : Writer) : Prop :=
  ∃ outcome w₁, outcome ≠ .error (.sink .write) ∧ op.Follows w w₁ ∧
    ∀ s, (op.run g).run (w.on s) = (outcome, Writer.on w₁ s)

theorem map_ne_refused {α β : Type} {outcome : Except Failure α}
    (h : outcome ≠ .error (.sink .write)) (f : α → β) : outcome.map f ≠ .error (.sink .write) := by
  intro hmap
  apply h
  cases outcome with
  | error e => simpa [Except.map] using hmap
  | ok a => simp [Except.map] at hmap

section Silent

variable {g : Graph} {w : Writer}

/-- An operation whose run does not look at the sink does the same on every sink. -/
theorem IsSilent.of_run {op : Operation} {α : Type} {x : WriterM α} {f : α → StepResult}
    {outcome : Except Failure α} (w₁ : Writer) (hop : op.run g = do let a ← x; return f a)
    (hfollows : op.Follows w w₁) (hrun : ∀ s, x.run (w.on s) = (outcome, w₁.on s))
    (houtcome : outcome ≠ .error (.sink .write)) : IsSilent g op w := by
  refine ⟨outcome.map f, w₁, ?_, hfollows, fun s ↦ ?_⟩
  · exact map_ne_refused houtcome f
  · rw [hop, Writer.run_bind_pure, hrun s]

/-- Without a macro the operations are refused before they come to the sink. -/
theorem isSilent_of_idle (h : w.current = none) (operation : String) {op : Operation}
    (hidle : op.currentAfter none = none) {α : Type} {x : List Char → WriterM α} {f : α → StepResult}
    (hop : op.run g = do let a ← Writer.requireMacro operation >>= x; return f a) :
    IsSilent g op w := by
  have hrun : ∀ s, (Writer.requireMacro operation >>= x).run (w.on s) =
      (.error (.contract (.noActiveMacro operation)), w.on s) := by
    intro s
    rw [Writer.run_bind, Writer.run_requireMacro_of_idle (w.on s) h]
  exact .of_run w hop (.same (by rw [h, hidle])) hrun (by simp)

theorem isSilent_beginMacro (name : Value) : IsSilent g (.beginMacro name) w := by
  cases hcurrent : w.current with
  | some current =>
    exact .of_run w rfl (.same (by rw [hcurrent]; rfl))
      (fun s ↦ Writer.run_beginMacro_of_writing (w.on s) hcurrent name) (by simp)
  | none =>
    cases hname : Identifier.ofValue? name with
    | none =>
      exact .of_run w rfl (.same (by rw [hcurrent]; exact hname))
        (fun s ↦ Writer.run_beginMacro_of_invalid (w.on s) hcurrent hname) (by simp)
    | some sanitized =>
      exact .of_run (w.begun sanitized) rfl (.begun hcurrent hname)
        (fun s ↦ Writer.run_beginMacro_of_valid (w.on s) hcurrent hname) (by simp)

/-- A push only puts its line in the buffer, or is refused for its path. -/
theorem isSilent_pushDirectory (hw : w.IsSound g) (path : Value) :
    IsSilent g (.pushDirectory path) w := by
  cases hcurrent : w.current with
  | none => exact isSilent_of_idle hcurrent "push_directory" rfl rfl
  | some current =>
    cases hpath : Writer.pathLiteral g path with
    | error e =>
      exact .of_run w rfl (.same rfl)
        (fun s ↦ Writer.run_pushDirectory_of_error (w.on s) hcurrent hpath) (by simp)
    | ok literal =>
      exact .of_run (w.pushed g path) rfl (.pushed hpath)
        (fun s ↦ Writer.run_pushDirectory_of_ok (w.on s) hcurrent hw.indent hpath) (by simp)

/-- A call writes, or it is silent. -/
theorem writes_or_isSilent (hw : w.IsSound g) (op : Operation) :
    Writes g w op ∨ IsSilent g op w := by
  cases op with
  | beginMacro name => exact .inr (isSilent_beginMacro name)
  | endMacro =>
    cases hcurrent : w.current with
    | none => exact .inr (isSilent_of_idle hcurrent "end_macro" rfl rfl)
    | some current => exact .inl (.endMacro hcurrent)
  | pushDirectory path => exact .inr (isSilent_pushDirectory hw path)
  | popDirectory =>
    cases hcurrent : w.current with
    | none => exact .inr (isSilent_of_idle hcurrent "pop_directory" rfl rfl)
    | some current =>
      cases hkept : w.directories.getLast? with
      | none =>
        exact .inr (.of_run w rfl (.same rfl) (fun s ↦ Writer.run_popDirectory_of_empty (w.on s) hcurrent
          (List.getLast?_eq_none_iff.1 hkept)) (by simp))
      | some path =>
        obtain ⟨d, hd⟩ := hw.exists_innermost hkept
        by_cases hlast : w.pending.lines.getLast? = some d.line
        · exact .inr (.of_run (w.withdrawn current d) rfl (.withdrawn current d)
            (fun s ↦ Writer.run_popDirectory_of_waiting (w.on s) hcurrent hw.indent hd hlast) (by simp))
        · exact .inl (.popDirectory hcurrent hd hlast)
  | writeCommand name arguments =>
    cases hcurrent : w.current with
    | none => exact .inr (isSilent_of_idle hcurrent "write_command" rfl rfl)
    | some current =>
      cases hname : Identifier.ofValue? name with
      | none =>
        exact .inr (.of_run w rfl (.same rfl)
          (fun s ↦ Writer.run_writeCommand_of_invalid (w.on s) hcurrent hname arguments) (by simp))
      | some sanitized => exact .inl (.writeCommand hcurrent hname arguments)
  | raise message =>
    exact .inr ⟨.error (.script message), w, by simp, .same rfl, fun s ↦ rfl⟩

end Silent

/-! ## Refused and taken calls -/

/-- The state in which a call writes. A pop has taken its directory off by then. -/
def entered (op : Operation) (w : Writer) : Writer := if op.isPop then w.left else w

@[simp] theorem sink_entered (op : Operation) (w : Writer) : (op.entered w).sink = w.sink := by
  unfold entered
  split <;> rfl

@[simp] theorem current_entered (op : Operation) (w : Writer) :
    (op.entered w).current = w.current := by
  unfold entered
  split <;> rfl

/-- The sink refuses a line of the call, behind some of the lines that wait. -/
def IsBroken (g : Graph) (op : Operation) (w : Writer) : Prop :=
  ∃ before, w.RefusesBehind before ∧
    (op.run g).run w = (.error (.sink .write), (op.entered w).broken before)

/-- The sink takes all lines of the call, and any sink that takes everything takes the same lines. -/
def IsTaken (g : Graph) (op : Operation) (w : Writer) : Prop :=
  ∃ outcome w₁ lines flushed, outcome ≠ .error (.sink .write) ∧ op.Follows w w₁ ∧
    (op.run g).run w = (outcome, Writer.on w₁ (w.sink.taking lines flushed)) ∧
    ∀ s : Sink, s.NeverRefuses →
      ((op.run g).run (w.on s)).2 = Writer.on w₁ (s.taking lines flushed)

section Written

variable {g : Graph} {w : Writer}

theorem IsSilent.isTaken {op : Operation} (h : IsSilent g op w) : IsTaken g op w := by
  obtain ⟨outcome, w₁, houtcome, hfollows, hrun⟩ := h
  refine ⟨outcome, w₁, [], false, houtcome, hfollows, ?_, fun s _ ↦ ?_⟩
  · simpa using hrun w.sink
  · simp [hrun s]

/-- Both halves from one run each: on the sink of the writer, and on any sink that takes everything. -/
theorem IsTaken.of_run {op : Operation} {α : Type} {x : WriterM α} {f : α → StepResult}
    {outcome : Except Failure α} (w₁ : Writer) (lines : List (List Char)) (flushed : Bool)
    (hop : op.run g = do let a ← x; return f a)
    (hcurrent : w₁.current = op.currentAfter w.current) (hempty : w₁.pending.lines = [])
    (houtcome : outcome ≠ .error (.sink .write))
    (hrun : x.run w = (outcome, w₁.on (w.sink.taking lines flushed)))
    (hwilling : ∀ s : Sink, s.NeverRefuses → (x.run (w.on s)).2 = w₁.on (s.taking lines flushed)) :
    IsTaken g op w := by
  refine ⟨outcome.map f, w₁, lines, flushed, ?_, Follows.of_empty hcurrent hempty, ?_,
    fun s hs ↦ ?_⟩
  · exact map_ne_refused houtcome f
  · rw [hop, Writer.run_bind_pure, hrun]
  · rw [hop, Writer.run_bind_pure, hwilling s hs]

/-- An operation was refused a line: what stood before that line is stored, and the buffer is empty. -/
theorem IsBroken.of_run {op : Operation} {α : Type} {x : WriterM α} {f : α → StepResult}
    {before : List (List Char)} (hop : op.run g = do let a ← x; return f a)
    (hbefore : w.RefusesBehind before)
    (hrun : x.run w = (.error (.sink .write), (op.entered w).broken before)) : IsBroken g op w := by
  refine ⟨before, hbefore, ?_⟩
  rw [hop, Writer.run_bind_pure, hrun]
  rfl

/-- If an argument is refused, what waited is stored as if the command had been written. -/
theorem isTaken_or_isBroken_writeCommand_of_error {current : List Char}
    (hcurrent : w.current = some current) {name : Value} {sanitized : List Char}
    (hname : Identifier.ofValue? name = some sanitized) {arguments : List Value}
    {e : EncodingError} (he : Writer.argumentLiterals g 1 arguments = .error e) :
    IsTaken g (.writeCommand name arguments) w ∨ IsBroken g (.writeCommand name arguments) w := by
  have hrun := Writer.run_writeCommand_of_valid w (g := g) hcurrent hname arguments
  simp only [he, Writer.orRefuse, Writer.run_bind, Writer.run_refuse] at hrun
  obtain hpending | ⟨before, hbefore, hpending⟩ := Writer.run_writePending_cases w
  · left
    apply IsTaken.of_run w.drained w.pending.lines false rfl rfl rfl
    rotate_left
    · rw [hrun, hpending]
      rfl
    · intro s hs
      rw [Writer.run_writeCommand_of_error (w.on s) hcurrent hs hname he]
      rfl
    · simp
  · right
    apply IsBroken.of_run rfl hbefore
    rw [hrun, hpending]
    rfl

variable (hw : w.IsSound g)
include hw

/-- The end of a macro is refused a line, or all its lines are stored and the flush alone can fail. -/
theorem isTaken_or_isBroken_endMacro {current : List Char} (hcurrent : w.current = some current) :
    IsTaken g .endMacro w ∨ IsBroken g .endMacro w := by
  have hrun := Writer.run_endMacro w hcurrent
  obtain hwritten | ⟨before, hbefore, hwritten⟩ :=
    Writer.run_writeStatement_cases w hw.indent Writer.returnStatement
  · left
    apply IsTaken.of_run (w.drained.ended current)
      (w.pending.lines ++ [Writer.statementLine Writer.returnStatement]) true rfl rfl rfl
    rotate_left
    · rw [hrun, hwritten]
      simp only [Writer.run_flushSink, Writer.storing_drained]
      rfl
    · intro s hs
      rw [Writer.run_endMacro_of_neverRefuses (w.on s) hcurrent hs hw.indent, Writer.run_flushSink,
        Writer.storing_drained]
      rfl
    · split <;> simp
  · right
    apply IsBroken.of_run rfl hbefore
    rw [hrun, hwritten]
    rfl

/-- A pop that writes has taken its directory off the stack before the first line, refused or not. -/
theorem isTaken_or_isBroken_popDirectory {current : List Char} {d : Directory}
    (hcurrent : w.current = some current) (hd : w.Innermost g d)
    (hlast : w.pending.lines.getLast? ≠ some d.line) :
    IsTaken g .popDirectory w ∨ IsBroken g .popDirectory w := by
  have hrun := Writer.run_popDirectory_of_not_waiting w hcurrent hw.indent hd hlast
  rw [← bind_assoc, Writer.run_bind_pure] at hrun
  obtain hwritten | ⟨before, hbefore, hwritten⟩ :=
    Writer.run_writeStatement_cases w.left hw.indent Writer.popStatement
  · left
    apply IsTaken.of_run w.left.drained
      (w.pending.lines ++ [Writer.statementLine Writer.popStatement]) false rfl rfl rfl
    rotate_left
    · rw [hrun, hwritten, Writer.storing_drained]
      rfl
    · intro s hs
      rw [Writer.run_popDirectory_of_neverRefuses (w.on s) hcurrent hs hw.indent hd hlast,
        Writer.storing_drained]
      rfl
    · simp [Except.map]
  · right
    apply IsBroken.of_run (w := w) rfl hbefore
    rw [hrun, hwritten]
    rfl

theorem isTaken_or_isBroken_writeCommand_of_ok {current : List Char}
    (hcurrent : w.current = some current) {name : Value} {sanitized : List Char}
    (hname : Identifier.ofValue? name = some sanitized) {arguments : List Value}
    {literals : List (List Char)} (hliterals : Writer.argumentLiterals g 1 arguments = .ok literals) :
    IsTaken g (.writeCommand name arguments) w ∨ IsBroken g (.writeCommand name arguments) w := by
  have hrun := Writer.run_writeCommand_of_valid w (g := g) hcurrent hname arguments
  simp only [hliterals, Writer.orRefuse, pure_bind] at hrun
  obtain hwritten | ⟨before, hbefore, hwritten⟩ :=
    Writer.run_writeStatement_cases w hw.indent (Writer.callStatement sanitized literals)
  · left
    apply IsTaken.of_run w.drained
      (w.pending.lines ++ [Writer.statementLine (Writer.callStatement sanitized literals)]) false
      rfl rfl rfl
    rotate_left
    · rw [hrun, hwritten, Writer.storing_drained]
      rfl
    · intro s hs
      rw [Writer.run_writeCommand_of_ok (w.on s) hcurrent hs hw.indent hname hliterals,
        Writer.storing_drained]
      rfl
    · simp
  · right
    apply IsBroken.of_run rfl hbefore
    rw [hrun, hwritten]
    rfl

/-- A call is taken, or one of its lines is refused. -/
theorem isTaken_or_isBroken (op : Operation) : IsTaken g op w ∨ IsBroken g op w := by
  obtain hwrites | hsilent := writes_or_isSilent hw op
  · cases hwrites with
    | endMacro hcurrent => exact isTaken_or_isBroken_endMacro hw hcurrent
    | popDirectory hcurrent hd hlast =>
      exact isTaken_or_isBroken_popDirectory hw hcurrent hd hlast
    | writeCommand hcurrent hname arguments =>
      cases hliterals : Writer.argumentLiterals g 1 arguments with
      | error e => exact isTaken_or_isBroken_writeCommand_of_error hcurrent hname hliterals
      | ok literals => exact isTaken_or_isBroken_writeCommand_of_ok hw hcurrent hname hliterals
  · exact .inl hsilent.isTaken

theorem IsBroken.writes {op : Operation} (h : IsBroken g op w) : Writes g w op := by
  obtain ⟨before, -, hrun⟩ := h
  obtain hwrites | ⟨outcome, w₁, houtcome, -, hsilent⟩ := writes_or_isSilent hw op
  · exact hwrites
  · have hsame := hsilent w.sink
    rw [Writer.on_sink, hrun] at hsame
    exact absurd (congrArg Prod.fst hsame).symm houtcome

/-- A refused pop has done to the state what it does on a sink that takes everything. -/
theorem IsBroken.run_popDirectory (h : IsBroken g .popDirectory w) {s : Sink} (hs : s.NeverRefuses) :
    ((popDirectory.run g).run (w.on s)).2 = w.left.drained.on
      (s.storing (w.pending.lines ++ [Writer.statementLine Writer.popStatement])) := by
  cases h.writes hw with
  | popDirectory hcurrent hd hlast =>
    rw [Operation.run, Writer.run_bind_pure,
      Writer.run_popDirectory_of_neverRefuses (w.on s) hcurrent hs hw.indent hd hlast,
      Writer.storing_drained]
    rfl

/-- Any other refused call has done no more than to take out what waits. -/
theorem IsBroken.run_drained {op : Operation} (h : IsBroken g op w) (hpop : op.isPop = false)
    {s : Sink} (hs : s.NeverRefuses) :
    (op.run g).run (w.on s).drained = (op.run g).run (w.on s) := by
  cases h.writes hw with
  | popDirectory => cases hpop
  | endMacro hcurrent =>
    rw [Operation.run, Writer.run_bind_pure, Writer.run_bind_pure,
      Writer.run_endMacro_of_neverRefuses (w.on s) hcurrent hs hw.indent,
      Writer.run_endMacro_of_neverRefuses (w.on s).drained hcurrent hs hw.indent,
      Writer.drained_drained]
  | writeCommand hcurrent hname arguments =>
    rw [Operation.run, Writer.run_bind_pure, Writer.run_bind_pure]
    cases hliterals : Writer.argumentLiterals g 1 arguments with
    | error e =>
      rw [Writer.run_writeCommand_of_error (w.on s) hcurrent hs hname hliterals,
        Writer.run_writeCommand_of_error (w.on s).drained hcurrent hs hname hliterals,
        Writer.drained_drained]
    | ok literals =>
      rw [Writer.run_writeCommand_of_ok (w.on s) hcurrent hs hw.indent hname hliterals,
        Writer.run_writeCommand_of_ok (w.on s).drained hcurrent hs hw.indent hname hliterals,
        Writer.drained_drained]

end Written

end Operation

end StarlarkMacro
