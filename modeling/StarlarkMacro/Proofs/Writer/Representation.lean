import StarlarkMacro.Proofs.Writer.Ledger

/-!
# What a writer holds

In every state that operations reach, on a sink that may refuse any write and any flush, the lines that wait
are the header with the pushes of all open directories behind it, or the pushes of some innermost ones. So a
pop that compares texts withdraws the push it matches, and otherwise nothing waits.
-/

namespace StarlarkMacro

namespace Writer

variable {w : Writer}

/-- With nothing waiting nothing is written, so not even a broken sink is noticed. -/
theorem run_writePending_of_empty (hempty : w.pending.lines = []) :
    writePending.run w = (.ok (), w) := by
  obtain hrun | ⟨before, line, after, hlines, -, -⟩ := run_writePending w
  · rw [hrun, drained, hempty, Sink.storing_nil, ← hempty]
  · simp [hempty] at hlines

/-- A pop with nothing waiting writes its own line, or has it refused, and has closed its directory. -/
theorem run_popDirectory_of_nothing_waiting {name : List Char} (hcurrent : w.current = some name)
    (hindent : w.pending.indent = StatementBuffer.standardIndent) {g : Graph} {d : Directory}
    (hd : w.Innermost g d) (hempty : w.pending.lines = []) :
    (popDirectory g).run w =
      if w.sink.refusesWrite (w.sink.writes + 1) then (.error (.sink .write), w.left.refusing)
      else (.ok d.path, w.left.storing (statementLine popStatement)) := by
  have hlast : w.pending.lines.getLast? ≠ some d.line := by simp [hempty]
  have hline : w.left.pending.render popStatement = statementLine popStatement :=
    render_pending w.left hindent _
  rw [run_popDirectory_of_not_waiting w hcurrent hindent hd hlast, run_bind,
    run_writePending_of_empty (w := w.left) hempty]
  have hsink : w.left.sink = w.sink := rfl
  simp only [run_bind, run_writeStatement, hline, hsink]
  cases w.sink.refusesWrite (w.sink.writes + 1) <;> rfl

/-- The end of a macro stores its last line whatever the flush does, or it is refused before that. -/
theorem run_endMacro_cases {name : List Char} (hcurrent : w.current = some name)
    (hindent : w.pending.indent = StatementBuffer.standardIndent) :
    endMacro.run w = flushSink.run ((w.drained.storing MacroHistory.returnLine).ended name) ∨
      ∃ before, w.RefusesBehind before ∧
        endMacro.run w = (.error (.sink .write), w.broken before) := by
  rw [run_endMacro w hcurrent]
  obtain hrun | ⟨before, hbefore, hrun⟩ := run_writeStatement_cases w hindent returnStatement
  · exact .inl (by rw [hrun]; rfl)
  · exact .inr ⟨before, hbefore, by rw [hrun]⟩

end Writer

namespace Ledger.Agrees

open Writer

variable {g : Graph} {l : Ledger} {w : Writer}

/-- A pop withdraws the push it matches if that push waits, and else nothing waits. -/
theorem run_popDirectory (h : Agrees g l w) {name : List Char} (hcurrent : w.current = some name)
    {outer : List Push} {p : Push} (hopened : l.opened = outer ++ [p]) :
    (∃ others, l.waiting = others ++ [.push p] ∧ .push p ∉ others ∧
      Keeps ⟨l.pushes, outer, others⟩ (some name) ∧
      (Writer.popDirectory g).run w = (.ok p.directory.path, w.withdrawn name p.directory)) ∨
    (l.waiting = [] ∧ (Writer.popDirectory g).run w =
      if w.sink.refusesWrite (w.sink.writes + 1) then (.error (.sink .write), w.left.refusing)
      else (.ok p.directory.path, w.left.storing (statementLine popStatement))) := by
  have hd : w.Innermost g p.directory := h.sound.innermost_iff.2 (by simp [h.opened, hopened])
  have hkeeps := h.keeps
  rw [hcurrent] at hkeeps
  obtain ⟨others, hwaiting, hothers⟩ | hwaiting := hkeeps.exists_append_or_eq_nil hopened
  · have hp : .push p ∉ others := hothers.push_notMem (h.push_notMem_outer hopened)
    refine .inl ⟨others, hwaiting, hp, hothers, ?_⟩
    apply run_popDirectory_of_waiting w hcurrent h.indent hd
    simp [h.lines, hwaiting, Waiting.line]
  · have hempty : w.pending.lines = [] := by simp [h.lines, hwaiting]
    exact .inr ⟨hwaiting, run_popDirectory_of_nothing_waiting hcurrent h.indent hd hempty⟩

theorem after_beginMacro (h : Agrees g l w) (name : Value) :
    Agrees g (l.after g (.beginMacro name) (((Operation.beginMacro name).run g).run w).1)
      (((Operation.beginMacro name).run g).run w).2 := by
  rw [Operation.run, run_bind_pure]
  cases hcurrent : w.current with
  | some current => simpa [run_beginMacro_of_writing w hcurrent, Except.map, after] using h
  | none =>
    cases hname : Identifier.ofValue? name with
    | none => simpa [run_beginMacro_of_invalid w hcurrent hname, Except.map, after] using h
    | some sanitized =>
      simpa [run_beginMacro_of_valid w hcurrent hname, Except.map, after, hname]
        using h.begun hcurrent sanitized

theorem after_endMacro (h : Agrees g l w) :
    Agrees g (l.after g .endMacro ((Operation.endMacro.run g).run w).1)
      ((Operation.endMacro.run g).run w).2 := by
  cases hcurrent : w.current with
  | none =>
    rw [Operation.run_of_idle hcurrent rfl]
    exact h
  | some current =>
    rw [Operation.run, run_bind_pure]
    obtain hrun | ⟨before, -, hrun⟩ := run_endMacro_cases hcurrent h.indent
    · rw [hrun, run_flushSink]
      split <;> exact ended g l h.indent rfl rfl rfl
    · rw [hrun]
      exact h.emptied hcurrent h.indent rfl rfl rfl

/-- A push adds itself to the ledger with the next number, unless it is refused. -/
theorem after_pushDirectory (h : Agrees g l w) (path : Value) :
    Agrees g (l.after g (.pushDirectory path) (((Operation.pushDirectory path).run g).run w).1)
      (((Operation.pushDirectory path).run g).run w).2 := by
  cases hcurrent : w.current with
  | none =>
    rw [Operation.run_of_idle hcurrent rfl]
    exact h
  | some current =>
    rw [Operation.run, run_bind_pure]
    cases hpath : pathLiteral g path with
    | error e => simpa [run_pushDirectory_of_error w hcurrent hpath, Except.map, after] using h
    | ok literal =>
      simpa [run_pushDirectory_of_ok w hcurrent h.indent hpath, Except.map, after]
        using h.pushed hcurrent hpath

/-- A pop finds its push by number, among those that wait or among those that are written. -/
theorem after_popDirectory (h : Agrees g l w) :
    Agrees g (l.after g .popDirectory ((Operation.popDirectory.run g).run w).1)
      ((Operation.popDirectory.run g).run w).2 := by
  cases hcurrent : w.current with
  | none =>
    rw [Operation.run_of_idle hcurrent rfl]
    exact h
  | some current =>
    rw [Operation.run, run_bind_pure]
    cases hkept : w.directories.getLast? with
    | none =>
      have hempty := List.getLast?_eq_none_iff.1 hkept
      simpa [run_popDirectory_of_empty w hcurrent hempty, Except.map, after] using h
    | some path =>
      obtain ⟨d, hd⟩ := h.sound.exists_innermost hkept
      obtain ⟨outer, p, hopened, rfl⟩ := h.exists_push hd
      obtain ⟨others, hwaiting, hp, hothers, hrun⟩ | ⟨hwaiting, hrun⟩ :=
        h.run_popDirectory hcurrent hopened
      · rw [hrun]
        refine h.popped hopened hcurrent h.indent rfl (popped_of_mem hopened hwaiting hp) ?_ hothers
        simp [withdrawn, h.lines, hwaiting]
      · have hpopped : ∀ w' : Writer, w'.current = w.current → w'.pending = w.pending →
            w'.directories = w.directories.dropLast → Agrees g l.popped w' := by
          intro w' hcurrent' hpending hdirectories
          refine h.popped hopened (hcurrent'.trans hcurrent) (hpending ▸ h.indent) hdirectories
            (popped_of_eq_nil hopened hwaiting) ?_ (.of_waiting_eq_nil rfl)
          rw [hpending, h.lines, hwaiting]
        rw [hrun]
        split <;> exact hpopped _ rfl rfl rfl

/-- A command has all pushes written, and keeps them written if it is refused for an argument. -/
theorem after_writeCommand (h : Agrees g l w) (name : Value) (arguments : List Value) :
    Agrees g (l.after g (.writeCommand name arguments)
        (((Operation.writeCommand name arguments).run g).run w).1)
      (((Operation.writeCommand name arguments).run g).run w).2 := by
  cases hcurrent : w.current with
  | none =>
    rw [Operation.run_of_idle hcurrent rfl]
    exact h
  | some current =>
    rw [Operation.run, run_bind_pure]
    cases hname : Identifier.ofValue? name with
    | none => simpa [run_writeCommand_of_invalid w hcurrent hname, Except.map, after] using h
    | some sanitized =>
      rw [run_writeCommand_of_valid w hcurrent hname]
      cases hliterals : argumentLiterals g 1 arguments with
      | error e =>
        rw [run_bind]
        obtain hrun | ⟨before, -, hrun⟩ := run_writePending_cases w
        · rw [hrun]
          exact h.emptied hcurrent h.indent rfl rfl rfl
        · rw [hrun]
          exact h.emptied hcurrent h.indent rfl rfl rfl
      | ok literals =>
        simp only [orRefuse, pure_bind]
        obtain hrun | ⟨before, -, hrun⟩ :=
          run_writeStatement_cases w h.indent (callStatement sanitized literals)
        · rw [hrun]
          exact h.emptied hcurrent h.indent rfl rfl rfl
        · rw [hrun]
          exact h.emptied hcurrent h.indent rfl rfl rfl

/-- The agreement is kept by every operation, whatever becomes of it. -/
theorem after_operation (h : Agrees g l w) (op : Operation) :
    Agrees g (l.after g op ((op.run g).run w).1) ((op.run g).run w).2 := by
  cases op with
  | beginMacro name => exact h.after_beginMacro name
  | endMacro => exact h.after_endMacro
  | pushDirectory path => exact h.after_pushDirectory path
  | popDirectory => exact h.after_popDirectory
  | writeCommand name arguments => exact h.after_writeCommand name arguments
  | raise message => exact h

theorem new (g : Graph) (sink : Sink) : Agrees g empty (Writer.new sink) := by
  refine ⟨.new g sink, rfl, rfl, List.nodup_nil, ?_, .idle rfl rfl⟩
  exact fun p hp ↦ absurd hp List.not_mem_nil

/-- A writer agrees with the ledger of its run. -/
theorem run (g : Graph) (sink : Sink) (ops : List Operation) :
    Agrees g (ofRecords g (Script.runOperations g ops (Writer.new sink)).1)
      (Script.runOperations g ops (Writer.new sink)).2 := by
  induction ops using List.reverseRecOn with
  | nil => exact new g sink
  | append_singleton ops op ih =>
    rw [Script.runOperations_append_singleton, ofRecords_append_singleton]
    exact ih.after_operation op

end Ledger.Agrees

namespace Writer

/-- Nothing but its sink, and what was logged, tells the writer from a new one. -/
def IsNew (w : Writer) : Prop := w = { Writer.new w.sink with log := w.log }

/-- An idle writer differs from a new one by its log only. -/
theorem isNew_of_idle {w : Writer} (hcurrent : w.current = none) (hdirectories : w.directories = [])
    (hindent : w.pending.indent = StatementBuffer.standardIndent) (hempty : w.pending.lines = []) :
    w.IsNew := by
  obtain ⟨⟨indent, lines⟩, current, directories, sink, log⟩ := w
  cases hcurrent
  cases hdirectories
  cases hindent
  cases hempty
  rfl

namespace IsNew

variable {w : Writer} (h : w.IsNew)
include h

theorem current : w.current = none := congrArg Writer.current h

theorem directories : w.directories = [] := congrArg Writer.directories h

theorem pending : w.pending.lines = [] := congrArg (fun w ↦ w.pending.lines) h

end IsNew

/-- A pop takes out the push it matches, and nothing else, if that push waits. If it does not, nothing waits,
and the pop writes a line or has it refused. -/
def PopsItsPush (g : Graph) (l : Ledger) (w : Writer) : Prop :=
  ∀ name d, w.current = some name → (w.opened g).getLast? = some d →
    ∃ p, l.opened.getLast? = some p ∧ p.directory = d ∧
      (.push p ∈ l.waiting → ∃ others, l.waiting = others ++ [.push p] ∧ .push p ∉ others ∧
        (popDirectory g).run w = (.ok d.path,
          { w with
            directories := w.directories.dropLast
            pending := { w.pending with lines := others.map Waiting.line }
            log := w.log ++ [.elided d.path name] })) ∧
      (.push p ∉ l.waiting → w.pending.lines = [] ∧
        (popDirectory g).run w =
          if w.sink.refusesWrite (w.sink.writes + 1) then (.error (.sink .write), w.left.refusing)
          else (.ok d.path, w.left.storing (statementLine popStatement)))

/-- All lines of the macro were stored, the final return among them. -/
def StoresReturn (w later : Writer) : Prop :=
  later.sink.stored = w.sink.stored ++ w.pending.lines ++ [MacroHistory.returnLine]

/-- An end whose last line is stored leaves a writer like a new one, whatever the flush does. Any other end
has not ended the macro. -/
def EndsByReturn (w : Writer) : Prop :=
  ∀ name, w.current = some name →
    (∃ later : Writer, later.IsNew ∧ w.StoresReturn later ∧ endMacro.run w =
      (if w.sink.refusesFlush (w.sink.flushes + 1) then .error (.sink .flush) else .ok (), later)) ∨
    ∃ (before : List (List Char)) (later : Writer), before <+: w.pending.lines ∧
      later.sink.stored = w.sink.stored ++ before ∧ later.current = some name ∧
      endMacro.run w = (.error (.sink .write), later)

/-- The macro that is being written changes by a begin that succeeds and by an end whose last line is stored,
and by nothing else. -/
def ChangesByBeginOrEnd (g : Graph) (w : Writer) : Prop :=
  ∀ (op : Operation) (outcome : Except Failure StepResult) (later : Writer),
    (op.run g).run w = (outcome, later) → later.current ≠ w.current →
      (∃ v name, op = .beginMacro v ∧ outcome = .ok .nothing ∧ w.current = none ∧
        Identifier.ofValue? v = some name ∧ later.current = some name) ∨
      (op = .endMacro ∧ (outcome = .ok .nothing ∨ outcome = .error (.sink .flush)) ∧
        later.IsNew ∧ w.StoresReturn later)

/-- What a writer holds, by the ledger of its run, and what its operations do to it. -/
structure Represents (g : Graph) (l : Ledger) (w : Writer) : Prop where
  opened : w.opened g = l.opened.map Push.directory
  lines : w.pending.lines = l.waiting.map Waiting.line
  /-- Every path that is kept has a literal, so each open directory has the push of its path for its line. -/
  isPush : ∀ path ∈ w.directories, ∃ literal, pathLiteral g path = .ok literal ∧
    directoryAt g path = directoryOf literal
  idle : w.current = none → w.IsNew
  writing : ∀ name, w.current = some name →
    w.pending.lines = header name :: (w.opened g).map Directory.line ∨
      ∃ outer inner, w.opened g = outer ++ inner ∧ w.pending.lines = inner.map Directory.line
  pop : w.PopsItsPush g l
  ending : w.EndsByReturn
  change : w.ChangesByBeginOrEnd g

end Writer

namespace Ledger.Agrees

open Writer

variable {g : Graph} {l : Ledger} {w : Writer}

theorem isNew (h : Agrees g l w) (hcurrent : w.current = none) : w.IsNew := by
  have hkeeps := h.keeps
  rw [hcurrent] at hkeeps
  cases hkeeps with
  | idle hopened hwaiting =>
    apply isNew_of_idle hcurrent (h.directories_eq_nil_iff.2 hopened) h.indent
    simp [h.lines, hwaiting]

/-- The header waits as long as no line was written, and then with every push; later only the innermost
pushes wait. -/
theorem lines_cases (h : Agrees g l w) {name : List Char} (hcurrent : w.current = some name) :
    w.pending.lines = header name :: (w.opened g).map Directory.line ∨
      ∃ outer inner, w.opened g = outer ++ inner ∧
        w.pending.lines = inner.map Directory.line := by
  have hkeeps := h.keeps
  rw [hcurrent] at hkeeps
  cases hkeeps with
  | headed hwaiting =>
    left
    simp [h.lines, h.opened, hwaiting, Waiting.line, Function.comp_def]
  | innermost outer inner hopened hwaiting =>
    refine .inr ⟨outer.map Push.directory, inner.map Push.directory, ?_, ?_⟩
    · rw [h.opened, hopened, List.map_append]
    · simp [h.lines, hwaiting, Waiting.line, Function.comp_def]

theorem popsItsPush (h : Agrees g l w) : w.PopsItsPush g l := by
  intro name d hcurrent hd
  obtain ⟨outer, p, hopened, rfl⟩ := h.exists_push (h.sound.innermost_iff.2 hd)
  refine ⟨p, by simp [hopened], rfl, ?_⟩
  obtain ⟨others, hwaiting, hp, -, hrun⟩ | ⟨hwaiting, hrun⟩ := h.run_popDirectory hcurrent hopened
  · have hmem : .push p ∈ l.waiting := by simp [hwaiting]
    refine ⟨fun _ ↦ ⟨others, hwaiting, hp, ?_⟩, fun hnot ↦ absurd hmem hnot⟩
    have hlines : w.pending.lines.dropLast = others.map Waiting.line := by simp [h.lines, hwaiting]
    rw [hrun, withdrawn, hlines]
  · have hempty : w.pending.lines = [] := by simp [h.lines, hwaiting]
    exact ⟨fun hmem ↦ by simp [hwaiting] at hmem, fun _ ↦ ⟨hempty, hrun⟩⟩

/-- The end of a macro writes what waits, the return line last, or it fails and the macro stays open. -/
theorem endsByReturn (h : Agrees g l w) : w.EndsByReturn := by
  intro name hcurrent
  obtain hrun | ⟨before, hbefore, hrun⟩ := run_endMacro_cases hcurrent h.indent
  · rw [run_flushSink] at hrun
    refine .inl ⟨_, ?_, ?_, hrun⟩
    · exact isNew_of_idle rfl rfl h.indent rfl
    · rfl
  · exact .inr ⟨before, w.broken before, hbefore.1, rfl, hcurrent, hrun⟩

theorem changesByBeginOrEnd (h : Agrees g l w) : w.ChangesByBeginOrEnd g := by
  intro op outcome later hrun hne
  have hafter : later.current = op.currentAfter w.current := by
    obtain ⟨_, w₁, lines, flushed, -, hfollows, htaken, -⟩ | ⟨before, -, hbroken⟩ :=
      Operation.isTaken_or_isBroken h.sound op
    · obtain ⟨-, rfl⟩ := Prod.mk.inj (hrun.symm.trans htaken)
      exact hfollows.current
    · obtain ⟨-, rfl⟩ := Prod.mk.inj (hrun.symm.trans hbroken)
      exact absurd (by simp) hne
  cases op with
  | beginMacro v =>
    left
    rw [Operation.run, run_bind_pure] at hrun
    cases hcurrent : w.current with
    | some current => exact absurd (by rw [hafter, hcurrent]; rfl) hne
    | none =>
      cases hname : Identifier.ofValue? v with
      | none => exact absurd (by rw [hafter, hcurrent]; exact hname) hne
      | some sanitized =>
        rw [run_beginMacro_of_valid w hcurrent hname] at hrun
        obtain ⟨rfl, rfl⟩ := Prod.mk.inj hrun
        exact ⟨v, sanitized, rfl, rfl, rfl, hname, rfl⟩
  | endMacro =>
    right
    rw [Operation.run, run_bind_pure] at hrun
    cases hcurrent : w.current with
    | none => exact absurd (by rw [hafter, hcurrent]; rfl) hne
    | some current =>
      obtain ⟨_, hnew, hstored, hend⟩ | ⟨before, _, -, -, hsame, hend⟩ :=
        h.endsByReturn current hcurrent
      · rw [hend] at hrun
        obtain ⟨rfl, rfl⟩ := Prod.mk.inj hrun
        refine ⟨rfl, ?_, hnew, hstored⟩
        split
        · exact .inr rfl
        · exact .inl rfl
      · rw [hend] at hrun
        obtain ⟨-, rfl⟩ := Prod.mk.inj hrun
        exact absurd (hsame.trans hcurrent.symm) hne
  | pushDirectory path => exact absurd hafter hne
  | popDirectory => exact absurd hafter hne
  | writeCommand name arguments => exact absurd hafter hne
  | raise message => exact absurd hafter hne

theorem represents (h : Agrees g l w) : w.Represents g l where
  opened := h.opened
  lines := h.lines
  isPush path hkept := by
    obtain ⟨literal, hpath⟩ := h.sound.encodes path hkept
    exact ⟨literal, hpath, directoryAt_of_ok hpath⟩
  idle := h.isNew
  writing _ hcurrent := h.lines_cases hcurrent
  pop := h.popsItsPush
  ending := h.endsByReturn
  change := h.changesByBeginOrEnd

end Ledger.Agrees

/-- Operations in any order, with whatever becomes of each, on a sink with any refused writes and flushes,
lead to a writer that holds what the ledger of the run says. -/
theorem Script.represents_runOperations (g : Graph) (sink : Sink) (ops : List Operation) :
    (runOperations g ops (Writer.new sink)).2.Represents g
      (Ledger.ofRecords g (runOperations g ops (Writer.new sink)).1) :=
  (Ledger.Agrees.run g sink ops).represents

end StarlarkMacro
