import StarlarkMacro.Proofs.Writer.History
import StarlarkMacro.Proofs.Writer.Reachable

/-!
# What a macro's lines are

On a sink that never refuses, the lines stored and the lines that wait are at every moment the lines of the
normal form of the run's history, so a pop withdraws its push exactly if nothing has happened between them.
-/

namespace StarlarkMacro

namespace History

open Writer MacroHistory

/-- Where the events of a macro are: those before the last that is no push are stored, and the pushes
behind it wait. Before the first event of another kind the header waits as well. -/
inductive Split (g : Graph) (base : List (List Char)) (m : MacroHistory) (w : Writer) : Prop where
  | fresh (hevents : Event.reduce m.events = (w.opened g).map Event.push)
      (hstored : w.sink.stored = base)
      (hpending : w.pending.lines = header m.name :: (w.opened g).map Directory.line)
  | settled (before : List Event) (last : Event) (outer waiting : List Directory)
      (hlast : last.isPush = false)
      (hevents : Event.reduce m.events = before ++ [last] ++ waiting.map Event.push)
      (hopened : w.opened g = outer ++ waiting)
      (hstored : w.sink.stored = base ++ linesOf m.name (before ++ [last]))
      (hpending : w.pending.lines = waiting.map Directory.line)

/-- The state of a writer as its history tells it. -/
structure Tells (g : Graph) (h : History) (w : Writer) : Prop where
  sink : w.sink.NeverRefuses
  sound : w.IsSound g
  current : w.current = h.current.map MacroHistory.name
  idle : h.current = none →
    w.sink.stored = h.finishedLines ∧ w.pending.lines = [] ∧ w.directories = []
  unmatched : ∀ m, h.current = some m → Event.Unmatched m.events (w.opened g)
  split : ∀ m, h.current = some m → Split g h.finishedLines m w

namespace Split

variable {g : Graph} {base : List (List Char)} {m : MacroHistory} {w : Writer} {d : Directory}

theorem stored_append_pending (h : Split g base m w) :
    w.sink.stored ++ w.pending.lines = base ++ m.lines := by
  cases h with
  | fresh hevents hstored hpending =>
    rw [hstored, hpending, lines, hevents, linesOf, Event.lines_map_push]
  | settled before last outer waiting hlast hevents hopened hstored hpending =>
    rw [hstored, hpending, lines, hevents, linesOf_append m.name (before ++ [last]),
      Event.lines_map_push, List.append_assoc]

theorem exists_stored (h : Split g base m w) : ∃ stored, w.sink.stored = base ++ stored := by
  cases h with
  | fresh hevents hstored hpending => exact ⟨[], by rw [hstored, List.append_nil]⟩
  | settled before last outer waiting hlast hevents hopened hstored hpending =>
    exact ⟨_, hstored⟩

/-- A directory is pushed; its line waits behind what waits already. -/
theorem pushed (h : Split g base m w) (path : Value) :
    Split g base { m with events := m.events ++ [.push (directoryAt g path)] } (w.pushed g path) := by
  cases h with
  | fresh hevents hstored hpending =>
    refine .fresh ?_ hstored ?_
    · simp [hevents]
    · rw [opened_pushed]
      simp [Writer.pushed, hpending]
  | settled before last outer waiting hlast hevents hopened hstored hpending =>
    refine .settled before last outer (waiting ++ [directoryAt g path]) hlast ?_ ?_ hstored ?_
    · simp [hevents]
    · simp [hopened]
    · simp [Writer.pushed, hpending]

/-- The innermost directory either waits last or has content, and then nothing waits. -/
theorem waits_or_settled (h : Split g base m w) (hd : w.Innermost g d) :
    w.pending.lines.getLast? = some d.line ∨
      w.pending.lines = [] ∧ (∀ e, (Event.reduce m.events).getLast? = some e → e.isPush = false) := by
  cases h with
  | fresh hevents hstored hpending =>
    left
    obtain ⟨outer, hds⟩ := hd.exists_opened_eq
    exact List.getLast?_eq_some_iff.2
      ⟨header m.name :: outer.map Directory.line, by simp [hpending, hds]⟩
  | settled before last outer waiting hlast hevents hopened hstored hpending =>
    cases waiting using List.reverseRecOn with
    | nil => exact .inr ⟨by simpa using hpending, by simp [hevents, hlast]⟩
    | append_singleton waiting d' _ =>
      left
      have hd' : d' = d := by simpa [hopened] using hd.getLast?_opened
      simp [hpending, hd']

/-- A pop whose push waits last withdraws it. -/
theorem withdrawn (h : Split g base m w) (hd : w.Innermost g d)
    (hlast : w.pending.lines.getLast? = some d.line) :
    Split g base { m with events := m.events ++ [.pop] } (w.withdrawn m.name d) := by
  cases h with
  | fresh hevents hstored hpending =>
    obtain ⟨outer, hds⟩ := hd.exists_opened_eq
    refine .fresh ?_ hstored ?_
    · rw [Event.reduce_append_singleton, hevents, hds, List.map_append, List.map_singleton,
        Event.reduceStep_push_pop]
      simp [hds]
    · rw [opened_withdrawn]
      simp [Writer.withdrawn, hpending, hds, List.dropLast_cons_of_ne_nil]
  | settled before last outer waiting hlast' hevents hopened hstored hpending =>
    cases waiting using List.reverseRecOn with
    | nil => simp [hpending] at hlast
    | append_singleton waiting d' _ =>
      refine .settled before last outer waiting hlast' ?_ ?_ hstored ?_
      · rw [Event.reduce_append_singleton, hevents, List.map_append, List.map_singleton,
          ← List.append_assoc, Event.reduceStep_push_pop]
      · simp [hopened]
      · simp [Writer.withdrawn, hpending]

end Split

/-- Once all that waits is stored, an event that is no push stands behind it, with a line or without. -/
theorem Split.of_stored {g : Graph} {base : List (List Char)} {m : MacroHistory} {w : Writer} {e : Event}
    (he : e.isPush = false)
    (hevents : Event.reduce (m.events ++ [e]) = Event.reduce m.events ++ [e])
    (hstored : w.sink.stored = base ++ m.lines ++ e.line?.toList)
    (hpending : w.pending.lines = []) :
    Split g base { m with events := m.events ++ [e] } w := by
  refine .settled (Event.reduce m.events) e (w.opened g) [] he ?_ (by simp) ?_ hpending
  · simpa using hevents
  · rw [hstored, linesOf_append, Event.lines_singleton, List.append_assoc, lines]

/-! ## One operation -/

section Step

variable {g : Graph} {h : History} {w : Writer}

theorem Tells.indent (ht : Tells g h w) : w.pending.indent = StatementBuffer.standardIndent :=
  ht.sound.indent

theorem Tells.idle_of_current (ht : Tells g h w) (hcurrent : w.current = none) : h.current = none := by
  simpa [hcurrent] using ht.current.symm

theorem Tells.exists_of_current (ht : Tells g h w) {name : List Char}
    (hcurrent : w.current = some name) : ∃ m, h.current = some m ∧ m.name = name := by
  simpa [hcurrent] using ht.current.symm

/-- A macro is begun with its header waiting. -/
theorem Tells.begun (ht : Tells g h w) (hcurrent : w.current = none) (name : List Char) :
    Tells g { h with current := some ⟨name, []⟩ } (w.begun name) := by
  obtain ⟨hstored, hpending, hdirectories⟩ := ht.idle (ht.idle_of_current hcurrent)
  have hopened : (w.begun name).opened g = [] := opened_eq_nil_iff.2 hdirectories
  refine ⟨ht.sink, ht.sound.congr rfl rfl, rfl, by simp, ?_, ?_⟩
  · rintro m ⟨⟩
    rw [hopened]
    exact .none .nil
  · rintro m ⟨⟩
    refine .fresh (by simp [hopened]) hstored ?_
    rw [hopened]
    simp [Writer.begun, hpending]

/-- An event happens in the macro that is being written. -/
theorem Tells.add (ht : Tells g h w) {m : MacroHistory} (hm : h.current = some m) {w' : Writer}
    {e : Event} (hsink : w'.sink.NeverRefuses) (hsound : w'.IsSound g)
    (hcurrent : w'.current = w.current)
    (hunmatched : Event.Unmatched (m.events ++ [e]) (w'.opened g))
    (hsplit : Split g h.finishedLines { m with events := m.events ++ [e] } w') :
    Tells g (h.add e) w' := by
  have hadd : (h.add e).current = some { m with events := m.events ++ [e] } := by
    simp [History.add, hm]
  refine ⟨hsink, hsound, ?_, by simp [hadd], ?_, ?_⟩
  · simp [hcurrent, ht.current, hadd, hm]
  · rintro _ h'
    obtain rfl := Option.some.inj (hadd.symm.trans h')
    exact hunmatched
  · rintro _ h'
    obtain rfl := Option.some.inj (hadd.symm.trans h')
    exact hsplit

theorem Tells.pushed (ht : Tells g h w) {m : MacroHistory} (hm : h.current = some m)
    {path : Value} {literal : Text × List Char} (hpath : pathLiteral g path = .ok literal) :
    Tells g (h.add (.push (directoryAt g path))) (w.pushed g path) := by
  refine ht.add hm ht.sink (ht.sound.pushed hpath) rfl ?_ ((ht.split m hm).pushed path)
  rw [opened_pushed]
  exact (ht.unmatched m hm).append_push _

theorem Tells.withdrawn (ht : Tells g h w) {m : MacroHistory} (hm : h.current = some m)
    {d : Directory} (hd : w.Innermost g d)
    (hlast : w.pending.lines.getLast? = some d.line) :
    Tells g (h.add .pop) (w.withdrawn m.name d) := by
  obtain ⟨outer, hds⟩ := hd.exists_opened_eq
  refine ht.add hm ht.sink (ht.sound.mono rfl (List.dropLast_subset _)) rfl ?_
    ((ht.split m hm).withdrawn hd hlast)
  have hpop := Event.Unmatched.append_pop (hds ▸ ht.unmatched m hm)
  simpa [hds] using hpop

/-- What waited is stored, and then the line of an event that is no push. -/
theorem Tells.stored (ht : Tells g h w) {m : MacroHistory} (hm : h.current = some m) {w' : Writer}
    {e : Event} (he : e.isPush = false)
    (hevents : Event.reduce (m.events ++ [e]) = Event.reduce m.events ++ [e])
    (hsink : w'.sink.NeverRefuses) (hsound : w'.IsSound g)
    (hcurrent : w'.current = w.current)
    (hunmatched : Event.Unmatched (m.events ++ [e]) (w'.opened g))
    (hstored : w'.sink.stored =
      w.sink.stored ++ w.pending.lines ++ e.line?.toList)
    (hpending : w'.pending.lines = []) : Tells g (h.add e) w' := by
  refine ht.add hm hsink hsound hcurrent hunmatched (.of_stored he hevents ?_ hpending)
  rw [hstored, (ht.split m hm).stored_append_pending]

theorem Tells.popped (ht : Tells g h w) {m : MacroHistory} (hm : h.current = some m)
    {d : Directory} (hd : w.Innermost g d)
    (hlast : w.pending.lines.getLast? ≠ some d.line) :
    Tells g (h.add .pop) (w.left.drained.storing (statementLine popStatement)) := by
  obtain ⟨outer, hds⟩ := hd.exists_opened_eq
  obtain hwaits | ⟨-, hnot⟩ := (ht.split m hm).waits_or_settled hd
  · exact absurd hwaits hlast
  · refine ht.stored hm rfl ?_ ht.sink (ht.sound.left.congr rfl rfl) rfl ?_ rfl rfl
    · rw [Event.reduce_append_singleton, Event.reduceStep_pop_of_not_push hnot]
    · have hpop := Event.Unmatched.append_pop (hds ▸ ht.unmatched m hm)
      simpa [hds] using hpop

theorem Tells.commanded (ht : Tells g h w) {m : MacroHistory} (hm : h.current = some m)
    (method : List Char) (literals : List (List Char)) :
    Tells g (h.add (.command method literals))
      (w.drained.storing (statementLine (callStatement method literals))) :=
  ht.stored hm rfl (by simp) ht.sink (ht.sound.congr rfl rfl) rfl
    ((ht.unmatched m hm).append_command method literals) rfl rfl

theorem Tells.marked (ht : Tells g h w) {m : MacroHistory} (hm : h.current = some m) :
    Tells g (h.add .mark) w.drained :=
  ht.stored hm rfl (by simp) ht.sink (ht.sound.congr rfl rfl) rfl
    (ht.unmatched m hm).append_mark (by simp [Writer.drained, Event.line?]) rfl

/-- The macro ends, and nothing of it is left but its lines. -/
theorem Tells.ended (ht : Tells g h w) {m : MacroHistory} (hm : h.current = some m) :
    Tells g ⟨h.finished ++ [m], none⟩
      { (w.drained.storing returnLine).ended m.name with
        sink := (w.drained.storing returnLine).sink.flush.2 } := by
  refine ⟨ht.sink, ht.sound.mono rfl (List.nil_subset _), rfl, fun _ ↦ ⟨?_, rfl, rfl⟩, by simp, by simp⟩
  have hlines := (ht.split m hm).stored_append_pending
  simp only [Sink.stored_flush, Writer.storing, Writer.drained, Sink.stored_storing, hlines]
  simp [finishedLines, MacroHistory.finishedLines]

theorem Tells.after_beginMacro (ht : Tells g h w) (name : Value) :
    Tells g (h.after g (.beginMacro name) (((Operation.beginMacro name).run g).run w).1)
      (((Operation.beginMacro name).run g).run w).2 := by
  rw [Operation.run, run_bind_pure]
  cases hcurrent : w.current with
  | some current => simpa [run_beginMacro_of_writing w hcurrent, Except.map, after] using ht
  | none =>
    cases hname : Identifier.ofValue? name with
    | none => simpa [run_beginMacro_of_invalid w hcurrent hname, Except.map, after] using ht
    | some sanitized =>
      simpa [run_beginMacro_of_valid w hcurrent hname, Except.map, after, hname]
        using ht.begun hcurrent sanitized

theorem Tells.after_endMacro (ht : Tells g h w) :
    Tells g (h.after g .endMacro ((Operation.endMacro.run g).run w).1)
      ((Operation.endMacro.run g).run w).2 := by
  cases hcurrent : w.current with
  | none =>
    rw [Operation.run_of_idle hcurrent rfl]
    exact ht
  | some current =>
    rw [Operation.run, run_bind_pure]
    obtain ⟨m, hm, rfl⟩ := ht.exists_of_current hcurrent
    rw [run_endMacro_of_neverRefuses w hcurrent ht.sink ht.indent, run_flushSink]
    split <;> simpa [Except.map, after, hm, returnLine, Writer.ended] using ht.ended hm

theorem Tells.after_pushDirectory (ht : Tells g h w) (path : Value) :
    Tells g (h.after g (.pushDirectory path) (((Operation.pushDirectory path).run g).run w).1)
      (((Operation.pushDirectory path).run g).run w).2 := by
  cases hcurrent : w.current with
  | none =>
    rw [Operation.run_of_idle hcurrent rfl]
    exact ht
  | some current =>
    rw [Operation.run, run_bind_pure]
    obtain ⟨m, hm, rfl⟩ := ht.exists_of_current hcurrent
    cases hpath : pathLiteral g path with
    | error e => simpa [run_pushDirectory_of_error w hcurrent hpath, Except.map, after] using ht
    | ok literal =>
      simpa [run_pushDirectory_of_ok w hcurrent ht.indent hpath, Except.map, after]
        using ht.pushed hm hpath

theorem Tells.after_popDirectory (ht : Tells g h w) :
    Tells g (h.after g .popDirectory ((Operation.popDirectory.run g).run w).1)
      ((Operation.popDirectory.run g).run w).2 := by
  cases hcurrent : w.current with
  | none =>
    rw [Operation.run_of_idle hcurrent rfl]
    exact ht
  | some current =>
    rw [Operation.run, run_bind_pure]
    obtain ⟨m, hm, rfl⟩ := ht.exists_of_current hcurrent
    cases hkept : w.directories.getLast? with
    | none =>
      have hempty := List.getLast?_eq_none_iff.1 hkept
      simpa [run_popDirectory_of_empty w hcurrent hempty, Except.map, after] using ht
    | some path =>
      obtain ⟨d, hd⟩ := ht.sound.exists_innermost hkept
      by_cases hlast : w.pending.lines.getLast? = some d.line
      · simpa [run_popDirectory_of_waiting w hcurrent ht.indent hd hlast, Except.map, after]
          using ht.withdrawn hm hd hlast
      · simpa [run_popDirectory_of_neverRefuses w hcurrent ht.sink ht.indent hd hlast, Except.map,
          after] using ht.popped hm hd hlast

theorem Tells.after_writeCommand (ht : Tells g h w) (name : Value) (arguments : List Value) :
    Tells g (h.after g (.writeCommand name arguments)
        (((Operation.writeCommand name arguments).run g).run w).1)
      (((Operation.writeCommand name arguments).run g).run w).2 := by
  cases hcurrent : w.current with
  | none =>
    rw [Operation.run_of_idle hcurrent rfl]
    exact ht
  | some current =>
    rw [Operation.run, run_bind_pure]
    obtain ⟨m, hm, rfl⟩ := ht.exists_of_current hcurrent
    cases hname : Identifier.ofValue? name with
    | none => simpa [run_writeCommand_of_invalid w hcurrent hname, Except.map, after] using ht
    | some method =>
      cases hliterals : argumentLiterals g 1 arguments with
      | error e =>
        simpa [run_writeCommand_of_error w hcurrent ht.sink hname hliterals, Except.map, after]
          using ht.marked hm
      | ok literals =>
        simpa [run_writeCommand_of_ok w hcurrent ht.sink ht.indent hname hliterals, Except.map, after,
          commandOf, hname, hliterals] using ht.commanded hm method literals

/-- Every operation keeps the writer as its history tells it. -/
theorem Tells.after (ht : Tells g h w) (op : Operation) :
    Tells g (h.after g op ((op.run g).run w).1) ((op.run g).run w).2 := by
  cases op with
  | beginMacro name => exact ht.after_beginMacro name
  | endMacro => exact ht.after_endMacro
  | pushDirectory path => exact ht.after_pushDirectory path
  | popDirectory => exact ht.after_popDirectory
  | writeCommand name arguments => exact ht.after_writeCommand name arguments
  | raise message => exact ht

end Step

/-! ## Runs -/

theorem tells_new (g : Graph) (refusesFlush : Nat → Bool) :
    Tells g empty (Writer.new (.empty (fun _ ↦ false) refusesFlush)) :=
  ⟨fun _ ↦ rfl, .new g _, rfl, fun _ ↦ ⟨rfl, rfl, rfl⟩, by simp [empty], by simp [empty]⟩

/-- After every run the writer is as its history tells it. -/
theorem tells_freshRun (g : Graph) (refusesFlush : Nat → Bool) (ops : List Operation) :
    Tells g (ofRecords g (Script.freshRun g refusesFlush ops).1)
      (Script.freshRun g refusesFlush ops).2 := by
  induction ops using List.reverseRecOn with
  | nil => exact tells_new g refusesFlush
  | append_singleton ops op ih =>
    rw [Script.freshRun, Script.runOperations_append_singleton, ofRecords_append_singleton]
    exact ih.after op

/-- A pop gives the path of the push it matches, whether or not it withdraws it. -/
theorem Tells.fst_run_popDirectory {g : Graph} {h : History} {w : Writer} (ht : Tells g h w)
    {m : MacroHistory} (hm : h.current = some m) {outer : List Directory} {d : Directory}
    (hd : w.opened g = outer ++ [d]) :
    ((Operation.popDirectory.run g).run w).1 = .ok (.path d.path) := by
  have hcurrent : w.current = some m.name := by simp [ht.current, hm]
  have hlast : w.Innermost g d := ht.sound.innermost_iff.2 (by simp [hd])
  rw [Operation.run, run_bind_pure]
  by_cases hwaits : w.pending.lines.getLast? = some d.line
  · rw [run_popDirectory_of_waiting w hcurrent ht.indent hlast hwaits, Except.map]
  · rw [run_popDirectory_of_neverRefuses w hcurrent ht.sink ht.indent hlast hwaits, Except.map]

theorem Tells.stored_endMacro {g : Graph} {h : History} {w : Writer} (ht : Tells g h w)
    {m : MacroHistory} (hm : h.current = some m) :
    ((Operation.endMacro.run g).run w).2.sink.stored = h.finishedLines ++ m.finishedLines := by
  have hcurrent : w.current = some m.name := by simp [ht.current, hm]
  rw [Operation.run, run_bind_pure, run_endMacro_of_neverRefuses w hcurrent ht.sink ht.indent,
    run_flushSink]
  obtain ⟨hstored, -, -⟩ := (ht.ended hm).idle rfl
  simpa [finishedLines, returnLine, Writer.ended] using hstored

/-- The lines of a macro, those stored and those that wait together, are the header and the lines of what
its history leaves when every push directly in front of a pop is deleted with it. -/
theorem stored_append_pending_eq_normalForm (g : Graph) (refusesFlush : Nat → Bool)
    (ops : List Operation) :
    let run := Script.freshRun g refusesFlush ops
    let h := ofRecords g run.1
    let w := run.2
    w.current = h.current.map MacroHistory.name ∧
    (h.current = none → w.sink.stored = h.finishedLines) ∧
    ∀ m, h.current = some m → ∃ left,
      (Event.NormalForm m.events left ∧ ∀ other, Event.NormalForm m.events other → other = left) ∧
      (∃ stored, w.sink.stored = h.finishedLines ++ stored ∧
        stored ++ w.pending.lines = header m.name :: Event.lines left) ∧
      Event.Unmatched m.events (w.opened g) ∧
      (∀ outer d, w.opened g = outer ++ [d] →
        ((Operation.popDirectory.run g).run w).1 = .ok (.path d.path) ∧
        ∃ before inner, m.events = before ++ .push d :: inner ∧ Event.Unmatched before outer ∧
          Event.Balanced inner) ∧
      ((Operation.endMacro.run g).run w).2.sink.stored =
        h.finishedLines ++ (header m.name :: Event.lines left ++ [returnLine]) := by
  intro run h w
  have ht : Tells g h w := tells_freshRun g refusesFlush ops
  refine ⟨ht.current, fun hnone ↦ (ht.idle hnone).1, fun m hm ↦ ?_⟩
  refine ⟨Event.reduce m.events, ?_, ?_, ?_, ?_, ?_⟩
  · exact ⟨Event.normalForm_iff.2 rfl, fun other hother ↦ Event.normalForm_iff.1 hother⟩
  · obtain ⟨stored, hstored⟩ := (ht.split m hm).exists_stored
    have hlines := (ht.split m hm).stored_append_pending
    rw [hstored, List.append_assoc] at hlines
    exact ⟨stored, hstored, List.append_cancel_left hlines⟩
  · exact ht.unmatched m hm
  · intro outer d hd
    exact ⟨ht.fst_run_popDirectory hm hd, (hd ▸ ht.unmatched m hm).exists_eq_append⟩
  · exact ht.stored_endMacro hm

/-- A command inside one directory and nothing inside the next. -/
def halfEmptyDirectories : List Operation :=
  [.beginMacro (.text "gen" false), .pushDirectory (.text "a" false),
    .writeCommand (.text "x" false) [.int 1 false], .pushDirectory (.text "b" false),
    .popDirectory]

def halfEmptyMacro : MacroHistory where
  name := "gen".toList
  events :=
    [.push ⟨"a", "    ctx = ctx.push_directory(ctx, \"a\")\n".toList⟩, .command ['x'] [['1']],
      .push ⟨"b", "    ctx = ctx.push_directory(ctx, \"b\")\n".toList⟩, .pop]

theorem stored_append_pending_eq_normalForm_halfEmptyDirectories :
    (ofRecords .empty (Script.freshRun .empty (fun _ ↦ false) halfEmptyDirectories).1).current =
        some halfEmptyMacro ∧
      ∃ left, Event.NormalForm halfEmptyMacro.events left ∧
        (Script.freshRun .empty (fun _ ↦ false) halfEmptyDirectories).2.sink.stored ++
          (Script.freshRun .empty (fun _ ↦ false) halfEmptyDirectories).2.pending.lines =
            header halfEmptyMacro.name :: Event.lines left := by
  have hcurrent : (ofRecords .empty
      (Script.freshRun .empty (fun _ ↦ false) halfEmptyDirectories).1).current =
        some halfEmptyMacro := by
    decide +kernel
  have hfinished : (ofRecords .empty
      (Script.freshRun .empty (fun _ ↦ false) halfEmptyDirectories).1).finishedLines = [] := by
    decide +kernel
  refine ⟨hcurrent, ?_⟩
  obtain ⟨-, -, hmacro⟩ :=
    stored_append_pending_eq_normalForm .empty (fun _ ↦ false) halfEmptyDirectories
  obtain ⟨left, ⟨hnormal, -⟩, ⟨stored, hstored, hlines⟩, -⟩ := hmacro _ hcurrent
  rw [hfinished, List.nil_append] at hstored
  exact ⟨left, hnormal, hstored ▸ hlines⟩

end History

end StarlarkMacro
