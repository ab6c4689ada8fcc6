import StarlarkMacro.Proofs.Script.Closing
import StarlarkMacro.Proofs.Writer.Reading
import StarlarkMacro.Proofs.Writer.Roundtrip

/-!
# The log accounts for every directory

A directory that is opened in a macro leaves its trace in one of three ways: a record that it was elided, a push
line in the text, and, if it is open at the end, its path in the warning. The calls, the text and the log are
made at different moments, a record when a pop withdraws its push, a line when something behind it is written.
Each call keeps the three in balance, so at the end of the macro they tell the same.
-/

namespace StarlarkMacro

open Writer

namespace Event

variable (events : List Event)

theorem filterMap_path?_append_singleton (e : Event) :
    (events ++ [e]).filterMap path? = events.filterMap path? ++ e.path?.toList := by
  cases h : e.path? <;> simp [h]

theorem filterMap_path?_filter_isTransition :
    (events.filter isTransition).filterMap path? = events.filterMap path? := by
  have hsame : (fun e ↦ if isTransition e = true then path? e else none) = path? := by
    funext e
    cases e <;> rfl
  rw [List.filterMap_filter, hsame]

theorem count_pop_filter_isTransition : (events.filter isTransition).count pop = events.count pop :=
  List.count_filter rfl

end Event

namespace History

/-- A push whose line waits last is the last of the events in normal form. -/
theorem Split.exists_reduce_eq {g : Graph} {base : List (List Char)} {m : MacroHistory} {w : Writer}
    (h : Split g base m w) {d : Directory} (hd : w.Innermost g d)
    (hwaits : w.pending.lines.getLast? = some d.line) :
    ∃ outer, Event.reduce m.events = outer ++ [.push d] := by
  cases h with
  | fresh hevents hstored hpending =>
    obtain ⟨outer, hds⟩ := hd.exists_opened_eq
    exact ⟨outer.map Event.push, by simp [hevents, hds]⟩
  | settled before last outer waiting hlast hevents hopened hstored hpending =>
    cases waiting using List.reverseRecOn with
    | nil => simp [hpending] at hwaits
    | append_singleton waiting d' _ =>
      obtain rfl : d' = d := by simpa [hopened] using hd.getLast?_opened
      exact ⟨before ++ [last] ++ waiting.map Event.push, by simp [hevents]⟩

/-- A failure changes the history by a mark at most, unless it ends a macro. -/
theorem after_error (g : Graph) (h : History) {op : Operation} (hop : op ≠ .endMacro) (e : Failure) :
    h.after g op (.error e) = h ∨ h.after g op (.error e) = h.add .mark := by
  cases op with
  | endMacro => exact absurd rfl hop
  | writeCommand name arguments =>
    unfold after
    split <;> simp_all
  | _ => exact .inl rfl

end History

/-- The end of a macro logs what is open and closes it. -/
theorem Transition.of_ended {g : Graph} {w later : Writer} {outcome : Except Failure StepResult}
    (h : Transition g w .endMacro outcome later) {current : List Char} (hcurrent : w.current = some current) :
    later.log = w.log ++ (if w.directories.isEmpty then [] else [.leftOpen current w.paths]) ++
      [.ended current] ∧ later.current = none ∧ later.directories = [] := by
  cases h with
  | @ended name _ _ hname houtcome hlater =>
    obtain rfl : current = name := Option.some.inj (hcurrent.symm.trans hname)
    subst hlater
    refine ⟨?_, rfl, rfl⟩
    simp [Writer.ended, drained, storing, paths]
  | failed hfault =>
    cases hfault with
    | noActiveMacro hnone => cases hcurrent.symm.trans hnone

namespace Script

/-! ## One call -/

/-- The calls that were made since a macro was begun, in balance with the log and with the events of the macro
in normal form: an opened directory is an elided one or a push that is left, a closed one an elided one or a
pop that is left. -/
structure Balances (g : Graph) (before : Writer) (used : List Char) (records : List Record)
    (h : History) (w : Writer) (events : List Event) (elided : List Text) : Prop where
  tells : History.Tells g h w
  current : h.current = some ⟨used, events⟩
  finished : h.finishedLines = before.sink.stored
  log : w.log = before.log ++ .began used :: elided.map (LogRecord.elided · used)
  pushed : (elided ++ (Event.reduce events).filterMap Event.path?).Perm (pushes records)
  popped : elided.length + (Event.reduce events).count .pop = (pops records).length
  opened : (pushes records).Perm (pops records ++ w.paths)
  legible : ∀ e ∈ events, e.IsLegible

namespace Balances

variable {g : Graph} {before w later : Writer} {used : List Char} {records : List Record}
  {h : History} {events : List Event} {elided more : List Text} {r : Record} {e : Event}

theorem current_eq (hb : Balances g before used records h w events elided) : w.current = some used := by
  rw [hb.tells.current, hb.current]
  rfl

/-- A call that is an event of the macro. -/
theorem add (hb : Balances g before used records h w events elided)
    (htells : History.Tells g (h.add e) later) (he : e.IsLegible)
    (hlog : later.log = w.log ++ more.map (LogRecord.elided · used))
    (hpushed : (more ++ (Event.reduce (events ++ [e])).filterMap Event.path?).Perm
      ((Event.reduce events).filterMap Event.path? ++ r.pushed?.toList))
    (hpopped : more.length + (Event.reduce (events ++ [e])).count .pop =
      (Event.reduce events).count .pop + r.popped?.toList.length)
    (hopened : (w.paths ++ r.pushed?.toList).Perm (r.popped?.toList ++ later.paths)) :
    Balances g before used (records ++ [r]) (h.add e) later (events ++ [e]) (elided ++ more) where
  tells := htells
  current := by simp [History.add, hb.current]
  finished := hb.finished
  log := by rw [hlog, hb.log, List.map_append, List.append_assoc, List.cons_append]
  pushed := by
    rw [pushes_append_singleton]
    calc
      elided ++ more ++ (Event.reduce (events ++ [e])).filterMap Event.path?
      _ = elided ++ (more ++ (Event.reduce (events ++ [e])).filterMap Event.path?) :=
        List.append_assoc ..
      List.Perm _ (elided ++ ((Event.reduce events).filterMap Event.path? ++ r.pushed?.toList)) :=
        hpushed.append_left elided
      _ = elided ++ (Event.reduce events).filterMap Event.path? ++ r.pushed?.toList :=
        (List.append_assoc ..).symm
      List.Perm _ (pushes records ++ r.pushed?.toList) := hb.pushed.append_right _
  popped := by
    have hbefore := hb.popped
    rw [pops_append_singleton, List.length_append, List.length_append]
    omega
  opened := by
    rw [pushes_append_singleton, pops_append_singleton]
    calc
      List.Perm (pushes records ++ r.pushed?.toList) (pops records ++ w.paths ++ r.pushed?.toList) :=
        hb.opened.append_right _
      _ = pops records ++ (w.paths ++ r.pushed?.toList) := List.append_assoc ..
      List.Perm _ (pops records ++ (r.popped?.toList ++ later.paths)) := hopened.append_left _
      _ = pops records ++ r.popped?.toList ++ later.paths := (List.append_assoc ..).symm
  legible := List.forall_mem_append.2 ⟨hb.legible, List.forall_mem_singleton.2 he⟩

/-- An event that cancels nothing. -/
theorem keep (hb : Balances g before used records h w events elided)
    (htells : History.Tells g (h.add e) later) (he : e.IsLegible)
    (hreduce : Event.reduce (events ++ [e]) = Event.reduce events ++ [e]) (hlog : later.log = w.log)
    (hpushed : r.pushed? = e.path?) (hpopped : r.popped?.toList.length = [e].count .pop)
    (hopened : (w.paths ++ r.pushed?.toList).Perm (r.popped?.toList ++ later.paths)) :
    Balances g before used (records ++ [r]) (h.add e) later (events ++ [e]) elided := by
  rw [← List.append_nil elided]
  refine hb.add htells he ?_ ?_ ?_ hopened
  · rw [hlog, List.map_nil, List.append_nil]
  · rw [hreduce, Event.filterMap_path?_append_singleton, hpushed, List.nil_append]
  · rw [hreduce, List.count_append, hpopped, List.length_nil, Nat.zero_add]

/-- A call that is none, and changes nothing that is told of the macro. -/
theorem same (hb : Balances g before used records h w events elided) (htells : History.Tells g h later)
    (hlog : later.log = w.log) (hpaths : later.paths = w.paths) (hpushed : r.pushed? = none)
    (hpopped : r.popped? = none) :
    Balances g before used (records ++ [r]) h later events elided where
  tells := htells
  current := hb.current
  finished := hb.finished
  log := hlog.trans hb.log
  pushed := by
    rw [pushes_append_singleton, hpushed, Option.toList_none, List.append_nil]
    exact hb.pushed
  popped := by
    rw [pops_append_singleton, hpopped, Option.toList_none, List.append_nil]
    exact hb.popped
  opened := by
    rw [pushes_append_singleton, pops_append_singleton, hpushed, hpopped, hpaths, Option.toList_none,
      List.append_nil, List.append_nil]
    exact hb.opened
  legible := hb.legible

/-- A macro is begun, and nothing has been opened in it. -/
theorem begun (ht : History.Tells g h before) (hcurrent : before.current = none)
    (hpushed : r.pushed? = none) (hpopped : r.popped? = none) :
    Balances g before used [r] { h with current := some ⟨used, []⟩ } (before.begun used) [] [] := by
  obtain ⟨hstored, -, hdirectories⟩ := ht.idle (ht.idle_of_current hcurrent)
  have hpushes : pushes [r] = [] := by simp [pushes, hpushed]
  have hpops : pops [r] = [] := by simp [pops, hpopped]
  have hpaths : (before.begun used).paths = [] := by simp [paths, Writer.begun, hdirectories]
  refine ⟨ht.begun hcurrent used, rfl, hstored.symm, rfl, ?_, ?_, ?_, by simp⟩
  · rw [hpushes]
    exact .nil
  · rw [hpops]
    rfl
  · rw [hpushes, hpops, hpaths]
    exact .nil

theorem after_pushed (hb : Balances g before used records h w events elided) {path : Value}
    {literal : Text × List Char} (hpath : pathLiteral g path = .ok literal)
    (hlegible : (Event.push (directoryAt g path)).IsLegible) (hpushed : r.pushed? = some (pathText path))
    (hpopped : r.popped? = none) :
    Balances g before used (records ++ [r]) (h.add (.push (directoryAt g path))) (w.pushed g path)
      (events ++ [.push (directoryAt g path)]) elided := by
  have hevent : r.pushed? = (Event.push (directoryAt g path)).path? := by
    rw [hpushed, Event.path?, path_directoryAt]
  refine hb.keep (hb.tells.pushed hb.current hpath) hlegible ?_ rfl hevent ?_ ?_
  · rw [Event.reduce_append_singleton, Event.reduceStep_push]
  · rw [hpopped]
    rfl
  · simp [hpushed, hpopped, paths, Writer.pushed]

/-- The pop of a directory that nothing has been written in is logged. -/
theorem after_withdrawn (hb : Balances g before used records h w events elided) {d : Directory}
    (hd : w.Innermost g d) (hwaits : w.pending.lines.getLast? = some d.line)
    (hpushed : r.pushed? = none) (hpopped : r.popped? = some d.path) :
    Balances g before used (records ++ [r]) (h.add .pop) (w.withdrawn used d) (events ++ [.pop])
      (elided ++ [d.path]) := by
  obtain ⟨left, hleft⟩ := (hb.tells.split _ hb.current).exists_reduce_eq hd hwaits
  change Event.reduce events = left ++ [.push d] at hleft
  obtain ⟨outer, hds⟩ := hd.exists_opened_eq
  have hreduce : Event.reduce (events ++ [.pop]) = left := by
    rw [Event.reduce_append_singleton, hleft, Event.reduceStep_push_pop]
  refine hb.add (hb.tells.withdrawn hb.current hd hwaits) trivial rfl ?_ ?_ ?_
  · rw [hreduce, hleft, Event.filterMap_path?_append_singleton, hpushed, Option.toList_none,
      List.append_nil]
    exact List.perm_append_comm
  · rw [hreduce, hleft, hpopped, List.count_append]
    exact Nat.add_comm ..
  · rw [hpushed, hpopped, ← map_path_opened g w, ← map_path_opened g (w.withdrawn used d),
      opened_withdrawn, hds]
    simp

/-- Any other pop is written. -/
theorem after_popped (hb : Balances g before used records h w events elided) {d : Directory}
    (hd : w.Innermost g d) (hwaits : w.pending.lines.getLast? ≠ some d.line)
    (hpushed : r.pushed? = none) (hpopped : r.popped? = some d.path) :
    Balances g before used (records ++ [r]) (h.add .pop)
      (w.left.drained.storing (statementLine popStatement)) (events ++ [.pop]) elided := by
  obtain ⟨outer, hds⟩ := hd.exists_opened_eq
  have hnot := (((hb.tells.split _ hb.current).waits_or_settled hd).resolve_left hwaits).2
  refine hb.keep (hb.tells.popped hb.current hd hwaits) trivial ?_ rfl hpushed ?_ ?_
  · rw [Event.reduce_append_singleton, Event.reduceStep_pop_of_not_push hnot]
  · rw [hpopped]
    rfl
  · rw [hpushed, hpopped, ← map_path_opened g w, ← map_path_opened g (w.left.drained.storing _),
      opened_storing, opened_drained, opened_left, hds]
    simp

/-- A command that fails behind its name leaves a mark at most. -/
theorem after_failed (hb : Balances g before used records h w events elided) {op : Operation}
    (hop : op ≠ .endMacro) {cause : Failure}
    (htells : History.Tells g (h.after g op (.error cause)) (op.leaves w cause)) :
    ∃ events', Balances g before used
      (records ++ [record (.operation op) op.arguments (.error cause) true (op.leaves w cause)])
      (h.after g op (.error cause)) (op.leaves w cause) events' elided := by
  have hpaths : (op.leaves w cause).paths = w.paths := by rw [paths, paths, op.directories_leaves]
  have hpushed := Record.pushed?_of_error op op.arguments cause true (op.leaves w cause)
  have hpopped := Record.popped?_of_error op op.arguments cause true (op.leaves w cause)
  obtain hafter | hafter := h.after_error g hop cause
  · rw [hafter] at htells ⊢
    exact ⟨_, hb.same htells (op.log_leaves w cause) hpaths hpushed hpopped⟩
  · rw [hafter] at htells ⊢
    refine ⟨_, hb.keep htells trivial ?_ (op.log_leaves w cause) hpushed ?_ ?_⟩
    · rw [Event.reduce_append_singleton, Event.reduceStep_mark]
    · rw [hpopped]
      rfl
    · simp [hpushed, hpopped, hpaths]

/-- Every call but the end of the macro keeps the balance. -/
theorem after (hb : Balances g before used records h w events elided) {op : Operation}
    (hop : op ≠ .endMacro) (hbare : op.IsBare g) :
    ∃ events' elided', Balances g before used (records ++ [recordOf g op w])
      (h.after g op ((op.run g).run w).1) ((op.run g).run w).2 events' elided' := by
  have htransition := Transition.of_run hb.tells.sink hb.tells.sound op
  have htells := hb.tells.after op
  rw [recordOf]
  generalize ((op.run g).run w).1 = outcome at htransition htells
  generalize ((op.run g).run w).2 = later at htransition htells
  cases htransition with
  | begun hcurrent => cases hcurrent.symm.trans hb.current_eq
  | ended => exact absurd rfl hop
  | @pushed current path literal hcurrent hpath =>
    have hlegible := Event.isLegible_push hbare hpath
    rw [← directoryAt_of_ok hpath] at hlegible
    exact ⟨_, _, hb.after_pushed hpath hlegible (text?_of_pathLiteral hpath) rfl⟩
  | @withdrawn current d hcurrent hd hwaits =>
    obtain rfl : used = current := Option.some.inj (hb.current_eq.symm.trans hcurrent)
    exact ⟨_, _, hb.after_withdrawn hd hwaits rfl rfl⟩
  | popped hcurrent hd hwaits => exact ⟨_, _, hb.after_popped hd hwaits rfl rfl⟩
  | @commanded current name arguments method literals hcurrent hname hliterals =>
    have hafter : h.after g (.writeCommand name arguments) (.ok .nothing) =
        h.add (.command method literals) := by
      rw [History.after, History.commandOf, hname, hliterals]
    rw [hafter] at htells ⊢
    have hlegible := Event.isLegible_command hname hbare hliterals
    exact ⟨_, _, hb.keep htells hlegible (Event.reduce_append_singleton ..) rfl rfl rfl
      (by simp [record, Record.pushed?, Record.popped?, paths, drained, storing])⟩
  | failed hfault =>
    obtain ⟨events', hb'⟩ := hb.after_failed hop htells
    exact ⟨events', elided, hb'⟩

end Balances

/-! ## A whole macro -/

/-- The calls in a macro, short of its end, are in balance. -/
theorem exists_balances {g : Graph} {h₀ : History} {before : Writer} (ht : History.Tells g h₀ before)
    (hcurrent : before.current = none) {name : Value} {used : List Char}
    (hname : Identifier.ofValue? name = some used) {inner : List Operation}
    (hends : .endMacro ∉ inner) (hbare : ∀ op ∈ inner, op.IsBare g) :
    ∃ h events elided, Balances g before used (runOperations g (.beginMacro name :: inner) before).1 h
      (runOperations g (.beginMacro name :: inner) before).2 events elided := by
  induction inner using List.reverseRecOn with
  | nil =>
    have hrun : runOperations g [.beginMacro name] before =
        ([recordOf g (.beginMacro name) before], before.begun used) := by
      change ([recordOf g (.beginMacro name) before], (((Operation.beginMacro name).run g).run before).2) = _
      rw [Operation.run, run_bind_pure, run_beginMacro_of_valid before hcurrent hname]
    rw [hrun]
    exact ⟨_, [], [], .begun ht hcurrent rfl rfl⟩
  | append_singleton inner op ih =>
    rw [List.forall_mem_append, List.forall_mem_singleton] at hbare
    rw [List.mem_append, List.mem_singleton, not_or] at hends
    obtain ⟨h, events, elided, hb⟩ := ih hends.1 hbare.1
    obtain ⟨events', elided', hb'⟩ := hb.after (Ne.symm hends.2) hbare.2
    rw [← List.cons_append, runOperations_append_singleton]
    exact ⟨_, events', elided', hb'⟩

/-- A log and the lines of a macro account for the directories that some calls have opened and closed. -/
structure Accounts (used : List Char) (records : List Record) (lines : List (List Char))
    (log : List LogRecord) (elided : List Text) (events : List Event) (opened : List Directory) :
    Prop where
  isLine : ∀ line ∈ lines, IsLine line
  /-- The lines push and pop as the events do, and can be read in no other way. -/
  reads : Event.Reads lines events ∧ ∀ other, Event.Reads lines other → other = events
  /-- What is logged between the records of the beginning and of the end. -/
  log_eq : log = .began used :: elided.map (LogRecord.elided · used) ++
    (if opened.isEmpty then [] else [.leftOpen used (opened.map Directory.path)]) ++ [.ended used]
  pushed : (elided ++ events.filterMap Event.path?).Perm (pushes records)
  popped : elided.length + events.count .pop = (pops records).length
  warned : (∃ paths, .leftOpen used paths ∈ log) ↔ (pops records).length < (pushes records).length
  /-- The directories that are listed are the pushes that no later pop in the lines matches. -/
  unmatched : Event.Unmatched events opened
  /-- The calls that have opened a directory are those that have closed it and those that left it open. -/
  closed : (pushes records).Perm (pops records ++ opened.map Directory.path)

namespace Balances

variable {g : Graph} {before w : Writer} {used : List Char} {records : List Record} {h : History}
  {events : List Event} {elided : List Text}

theorem legible_reduce (hb : Balances g before used records h w events elided) :
    ∀ e ∈ Event.reduce events, e.IsLegible := by
  intro e he
  exact hb.legible e (Event.mem_of_cancels (Event.cancels_reduce events) he)

/-- The lines of the macro are read as what is left of its events. -/
theorem reads (hb : Balances g before used records h w events elided) :
    Event.Reads (MacroHistory.finishedLines ⟨used, events⟩)
      ((Event.reduce events).filter Event.isTransition) := by
  have hreturn : Event.Reads [MacroHistory.returnLine] [] := .other Event.returnLine_ne_transitionLine .nil
  have hlines := (Event.reads_lines hb.legible_reduce).append hreturn
  rw [List.append_nil] at hlines
  exact .other (Event.header_ne_transitionLine · · used) hlines

theorem isLine_of_mem_finishedLines (hb : Balances g before used records h w events elided)
    {name : Value} (hname : Identifier.ofValue? name = some used) :
    ∀ line ∈ MacroHistory.finishedLines ⟨used, events⟩, IsLine line := by
  rw [MacroHistory.finishedLines, MacroHistory.lines, MacroHistory.linesOf, List.forall_mem_append,
    List.forall_mem_cons, List.forall_mem_singleton]
  exact ⟨⟨Event.isLine_header hname, Event.isLine_of_mem_lines hb.legible_reduce⟩,
    Event.isLine_statementLine (Text.isLineEnd_of_all (by decide))⟩

/-- At its end the macro is accounted for. -/
theorem accounts (hb : Balances g before used records h w events elided) {name : Value}
    (hname : Identifier.ofValue? name = some used) {later : Writer}
    {outcome : Except Failure StepResult} (htransition : Transition g w .endMacro outcome later)
    (hstored : later.sink.stored = before.sink.stored ++ MacroHistory.finishedLines ⟨used, events⟩)
    {r : Record} (hpushed : r.pushed? = none) (hpopped : r.popped? = none) :
    Accounts used (records ++ [r]) (before.since later).1 (before.since later).2 elided
      ((Event.reduce events).filter Event.isTransition) (w.opened g) := by
  obtain ⟨hlater, -, -⟩ := htransition.of_ended hb.current_eq
  have hlog : (before.since later).2 = .began used :: elided.map (LogRecord.elided · used) ++
      (if (w.opened g).isEmpty then [] else [.leftOpen used ((w.opened g).map Directory.path)]) ++
        [.ended used] := by
    rw [since, hlater, hb.log, map_path_opened, Writer.opened, List.isEmpty_map]
    simp
  have hlines : (before.since later).1 = MacroHistory.finishedLines ⟨used, events⟩ := by
    rw [since, hstored, List.drop_left]
  have hpushes : pushes (records ++ [r]) = pushes records := by
    rw [pushes_append_singleton, hpushed, Option.toList_none, List.append_nil]
  have hpops : pops (records ++ [r]) = pops records := by
    rw [pops_append_singleton, hpopped, Option.toList_none, List.append_nil]
  rw [hlog, hlines]
  refine ⟨hb.isLine_of_mem_finishedLines hname, ⟨hb.reads, fun _ hother ↦ hother.functional hb.reads⟩,
    rfl, ?_, ?_, ?_, ?_, ?_⟩
  · rw [hpushes, Event.filterMap_path?_filter_isTransition]
    exact hb.pushed
  · rw [hpops, Event.count_pop_filter_isTransition]
    exact hb.popped
  · have hcount := hb.opened.length_eq
    rw [hpushes, hpops, hcount, List.length_append, ← map_path_opened g, List.length_map]
    cases hds : w.opened g with
    | nil => simp
    | cons d ds => simp
  · exact (hb.tells.unmatched _ hb.current).filter_reduce
  · rw [hpushes, hpops, map_path_opened]
    exact hb.opened

end Balances

/-- The log and the lines of a macro that is begun and ended account for every directory that was opened and
closed in it, and no directory is carried into what follows. The calls may be those that the blocks of a script
make. -/
theorem accounts_of_runOperations (g : Graph) (refusesFlush : Nat → Bool)
    (earlier inner : List Operation) {name : Value} {used : List Char}
    (hcurrent : (freshRun g refusesFlush earlier).2.current = none)
    (hname : Identifier.ofValue? name = some used) (hends : .endMacro ∉ inner)
    (hbare : ∀ op ∈ inner, op.IsBare g) :
    let before := (freshRun g refusesFlush earlier).2
    let run := runOperations g (.beginMacro name :: inner ++ [.endMacro]) before
    (∃ elided events opened, Accounts used run.1 (before.since run.2).1 (before.since run.2).2 elided
      events opened) ∧ run.2.current = none ∧ run.2.directories = [] := by
  intro before run
  have ht := History.tells_freshRun g refusesFlush earlier
  obtain ⟨h, events, elided, hb⟩ := exists_balances ht hcurrent hname hends hbare
  have htransition := Transition.of_run hb.tells.sink hb.tells.sound .endMacro
  have hstored := hb.tells.stored_endMacro hb.current
  rw [hb.finished] at hstored
  obtain ⟨-, hnone, hempty⟩ := htransition.of_ended hb.current_eq
  have hrun : run = _ := runOperations_append_singleton g (.beginMacro name :: inner) .endMacro before
  rw [hrun]
  exact ⟨⟨elided, _, _, hb.accounts hname htransition hstored rfl rfl⟩, hnone, hempty⟩

/-- A macro that leaves a directory open. -/
def leftOpenMacro : List Operation :=
  [.beginMacro (.text "first" false), .pushDirectory (.text "lib" false), .endMacro]

/-- A directory inside one of the same path is elided, a command fails, the next directory is closed behind a
command, and the last is left open. -/
def partlyClosed : List Operation :=
  [.pushDirectory (.text "a" false), .pushDirectory (.text "a" true), .popDirectory,
    .writeCommand (.text "x" false) [.set false []], .pushDirectory (.text "b" false),
    .writeCommand (.text "x" false) [.int 1 false], .popDirectory, .pushDirectory (.text "c" false)]

theorem isBare_of_mem_partlyClosed : ∀ op ∈ partlyClosed, op.IsBare .empty := by
  have htext (t : Text) (derived : Bool) : Value.IsBare .empty (.text t derived) :=
    .of_parts rfl fun _ hw ↦ nomatch hw
  have hset : Value.IsBare .empty (.set false []) := .of_parts rfl fun _ hw ↦ nomatch hw
  have hint : Value.IsBare .empty (.int 1 false) := .of_parts rfl fun _ hw ↦ nomatch hw
  intro op hop
  simp only [partlyClosed, List.mem_cons, List.not_mem_nil, or_false] at hop
  rcases hop with rfl | rfl | rfl | rfl | rfl | rfl | rfl | rfl
  · exact htext _ _
  · exact htext _ _
  · trivial
  · exact List.forall_mem_singleton.2 hset
  · exact htext _ _
  · exact List.forall_mem_singleton.2 hint
  · trivial
  · exact htext _ _

/-- Three of the four directories stay in the text, and two of them are listed. -/
theorem accounts_of_runOperations_partlyClosed :
    let before := (freshRun .empty (fun _ ↦ false) leftOpenMacro).2
    let run := runOperations .empty (.beginMacro (.text "gen" false) :: partlyClosed ++ [.endMacro]) before
    before.current = none ∧ .endMacro ∉ partlyClosed ∧ (∀ op ∈ partlyClosed, op.IsBare .empty) ∧
      ∃ elided events opened, Accounts "gen".toList run.1 (before.since run.2).1 (before.since run.2).2
        elided events opened ∧ opened.map Directory.path = ["a", "c"] := by
  intro before run
  have hcurrent : before.current = none := by decide +kernel
  have hends : .endMacro ∉ partlyClosed := by simp [partlyClosed]
  have hlog : .leftOpen "gen".toList ["a", "c"] ∈ (before.since run.2).2 := by decide +kernel
  obtain ⟨⟨elided, events, opened, haccounts⟩, -⟩ := accounts_of_runOperations .empty (fun _ ↦ false)
    leftOpenMacro partlyClosed hcurrent (show Identifier.ofValue? (.text "gen" false) = some "gen".toList
      by decide +kernel) hends isBare_of_mem_partlyClosed
  refine ⟨hcurrent, hends, isBare_of_mem_partlyClosed, elided, events, opened, haccounts, ?_⟩
  have hlisted := haccounts.log_eq ▸ hlog
  by_cases hopened : opened.isEmpty = true
  · simp [hopened] at hlisted
  · simpa [hopened, eq_comm] using hlisted

end Script

end StarlarkMacro
