import StarlarkMacro.Proofs.Document.Macro
import StarlarkMacro.Proofs.Literal.Encoding
import StarlarkMacro.Proofs.Writer.Elision

/-!
# What is written is read back

Whatever operations a writer is driven by, once no macro is being written the text in its sink is accepted,
and its summaries tell the run: the macros that were begun, their commands, and the directories that were
not withdrawn. The events of a macro become lines of a text of macros, so what is known of such texts
applies.
-/

namespace StarlarkMacro

open Writer

namespace Event

/-- The number of directories that are open behind events, unless one of them closes one that is not. -/
def depthBehind? : Nat → List Event → Option Nat
  | depth, [] => some depth
  | depth, push _ :: events => depthBehind? (depth + 1) events
  | 0, pop :: _ => none
  | depth + 1, pop :: events => depthBehind? depth events
  | depth, command .. :: events => depthBehind? depth events
  | depth, mark :: events => depthBehind? depth events

def command? : Event → Option (List Char)
  | command method _ => some method
  | _ => none

def path? : Event → Option Text
  | push d => some d.path
  | _ => none

theorem depthBehind?_append (depth : Nat) (events more : List Event) :
    depthBehind? depth (events ++ more) = (depthBehind? depth events).bind (depthBehind? · more) := by
  induction events generalizing depth with
  | nil => rfl
  | cons e events ih =>
    cases e with
    | pop =>
      cases depth with
      | zero => rfl
      | succ depth => exact ih depth
    | push d => exact ih (depth + 1)
    | command method literals => simpa only [List.cons_append, depthBehind?] using ih depth
    | mark => simpa only [List.cons_append, depthBehind?] using ih depth

/-- Balanced events leave the depth as it was and never go below it. -/
theorem Balanced.depthBehind? {events : List Event} (h : Balanced events) (depth : Nat) :
    depthBehind? depth events = some depth := by
  induction h generalizing depth with
  | nil => rfl
  | command method literals _ ih => simp [depthBehind?_append, ih, Event.depthBehind?]
  | mark _ ih => simp [depthBehind?_append, ih, Event.depthBehind?]
  | nest d _ _ ih ih' => simp [depthBehind?_append, ih, ih', Event.depthBehind?]

/-- The depth behind all events is the number of pushes without a pop. -/
theorem Unmatched.depthBehind? {events : List Event} {ds : List Directory} (h : Unmatched events ds) :
    depthBehind? 0 events = some ds.length := by
  induction h with
  | none hb => exact hb.depthBehind? 0
  | push d _ hb ih => simp [depthBehind?_append, ih, Event.depthBehind?, hb.depthBehind?]

section Cancels

variable {events left : List Event} (h : Relation.ReflTransGen Cancels events left)
include h

/-- A pair that cancels changes neither the depth nor whether it goes below zero. -/
theorem depthBehind?_of_cancels (depth : Nat) : depthBehind? depth left = depthBehind? depth events := by
  induction h with
  | refl => rfl
  | tail _ hstep ih =>
    obtain ⟨before, d, after⟩ := hstep
    rw [← ih, depthBehind?_append, depthBehind?_append]
    rfl

/-- Commands stay where they are when pushes and pops cancel. -/
theorem filterMap_command?_of_cancels : left.filterMap command? = events.filterMap command? := by
  induction h with
  | refl => rfl
  | tail _ hstep ih =>
    obtain ⟨before, d, after⟩ := hstep
    rw [← ih, List.filterMap_append, List.filterMap_append]
    rfl

theorem mem_of_cancels {e : Event} (he : e ∈ left) : e ∈ events := by
  induction h with
  | refl => exact he
  | tail _ hstep ih =>
    obtain ⟨before, d, after⟩ := hstep
    refine ih ?_
    rcases List.mem_append.1 he with hbefore | hafter
    · exact List.mem_append_left _ hbefore
    · exact List.mem_append_right _ (List.mem_cons_of_mem _ (List.mem_cons_of_mem _ hafter))

end Cancels

/-! ## Events as lines -/

/-- The line of an event is that of a quoted path or of a call with data, under a name in use. -/
def IsSpelled : Event → Prop
  | push d => ∃ path, d.path = Text.ofChars path ∧
      d.line = statementLine (pushStatement (Text.Quoted.encode path))
  | command method literals => (∃ v, Identifier.ofValue? v = some method) ∧
      ∃ ds : List Datum, callStatement method literals = callStatement method (ds.map Datum.text)
  | _ => True

/-- Lines of a macro that say what events say. -/
structure Spells (events : List Event) (ls : List MacroLine) : Prop where
  lines : lines events = ls.map fun l ↦ statementLine l.statement
  good : ∀ l ∈ ls, l.IsGood
  commands : ls.filterMap MacroLine.command? = events.filterMap command?
  paths : ls.filterMap MacroLine.path? = events.filterMap path?
  depth : ∀ depth, MacroLine.depthBehind? depth ls = depthBehind? depth events

namespace Spells

variable {events : List Event} {ls : List MacroLine}

/-- The path of a push is read back from its literal. -/
theorem push {d : Directory} {path : List Char} (h : Spells events ls)
    (hpath : d.path = Text.ofChars path)
    (hline : d.line = statementLine (pushStatement (Text.Quoted.encode path))) :
    Spells (.push d :: events) (.push path :: ls) where
  lines := by
    have hlines := h.lines
    rw [Event.lines] at hlines ⊢
    simp [line?, hline, hlines, MacroLine.statement]
  good := List.forall_mem_cons.2 ⟨trivial, h.good⟩
  commands := h.commands
  paths := by simp [MacroLine.path?, path?, hpath, h.paths]
  depth depth := h.depth (depth + 1)

theorem pop (h : Spells events ls) : Spells (.pop :: events) (.pop :: ls) where
  lines := by
    have hlines := h.lines
    rw [Event.lines] at hlines ⊢
    simp [line?, hlines, MacroLine.statement]
  good := List.forall_mem_cons.2 ⟨trivial, h.good⟩
  commands := h.commands
  paths := h.paths
  depth
    | 0 => rfl
    | depth + 1 => h.depth depth

/-- A spliced argument stands for several data, so only the statements as a whole are compared. -/
theorem command {method : List Char} {literals : List (List Char)} {ds : List Datum}
    (h : Spells events ls) (hmethod : Identifier.IsUsable method)
    (hcall : callStatement method literals = callStatement method (ds.map Datum.text)) :
    Spells (.command method literals :: events) (.command method ds :: ls) where
  lines := by
    have hlines := h.lines
    rw [Event.lines] at hlines ⊢
    simp [line?, hcall, hlines, MacroLine.statement]
  good := List.forall_mem_cons.2 ⟨hmethod, h.good⟩
  commands := by simp [MacroLine.command?, command?, h.commands]
  paths := h.paths
  depth depth := by simpa only [MacroLine.depthBehind?, depthBehind?] using h.depth depth

theorem mark (h : Spells events ls) : Spells (.mark :: events) ls where
  lines := h.lines
  good := h.good
  commands := h.commands
  paths := h.paths
  depth depth := by simpa only [depthBehind?] using h.depth depth

end Spells

/-- Events whose names avoid the unreserved keywords have lines that are read back. -/
theorem exists_spells {events : List Event} (h : ∀ e ∈ events, e.IsSpelled)
    (hnames : ∀ method ∈ events.filterMap command?, method ∉ Identifier.unreservedKeywords) :
    ∃ ls, Spells events ls := by
  induction events with
  | nil => exact ⟨[], rfl, by simp, rfl, rfl, fun _ ↦ rfl⟩
  | cons e events ih =>
    obtain ⟨ls, hls⟩ := ih (fun e he ↦ h e (by simp [he])) fun method hmethod ↦ by
      refine hnames method ?_
      obtain ⟨e', he', hcommand⟩ := List.mem_filterMap.1 hmethod
      exact List.mem_filterMap.2 ⟨e', List.mem_cons_of_mem _ he', hcommand⟩
    have hspelled := h e (by simp)
    cases e with
    | push d =>
      obtain ⟨path, hpath, hline⟩ := hspelled
      exact ⟨_, hls.push hpath hline⟩
    | pop => exact ⟨_, hls.pop⟩
    | command method literals =>
      obtain ⟨⟨v, hv⟩, ds, hcall⟩ := hspelled
      have husable := Identifier.isUsable_of_ofValue? hv (hnames method (by simp [command?]))
      exact ⟨_, hls.command husable hcall⟩
    | mark => exact ⟨_, hls.mark⟩

end Event

namespace MacroHistory

/-- The name and the commands of a macro, and its directories that no pop withdrew. -/
def summary (m : MacroHistory) : MacroSummary :=
  ⟨m.name, m.events.filterMap Event.command?, (Event.reduce m.events).filterMap Event.path?⟩

/-- No name in a macro is one of the keywords that are not reserved. -/
def AvoidsKeywords (m : MacroHistory) : Prop :=
  m.name ∉ Identifier.unreservedKeywords ∧
    ∀ method ∈ m.events.filterMap Event.command?, method ∉ Identifier.unreservedKeywords

structure IsSpelled (m : MacroHistory) : Prop where
  name : ∃ v, Identifier.ofValue? v = some m.name
  events : ∀ e ∈ m.events, e.IsSpelled

/-- The lines of a macro that has ended are those of a macro without fault. -/
theorem IsSpelled.exists_macroText {m : MacroHistory} (h : m.IsSpelled) (hkeywords : m.AvoidsKeywords)
    {ds : List Directory} (hunmatched : Event.Unmatched m.events ds) :
    ∃ t : MacroText, t.IsGood ∧ t.text = m.finishedLines.flatten ∧ t.summary = m.summary := by
  have hcancels := Event.cancels_reduce m.events
  have hcommands := Event.filterMap_command?_of_cancels hcancels
  have hspelled : ∀ e ∈ Event.reduce m.events, e.IsSpelled := fun e he ↦
    h.events e (Event.mem_of_cancels hcancels he)
  obtain ⟨ls, hls⟩ := Event.exists_spells hspelled (hcommands ▸ hkeywords.2)
  obtain ⟨v, hv⟩ := h.name
  refine ⟨⟨m.name, ls⟩, ⟨Identifier.isUsable_of_ofValue? hv hkeywords.1, hls.good, ?_⟩, ?_, ?_⟩
  · rw [hls.depth, Event.depthBehind?_of_cancels hcancels, hunmatched.depthBehind?]
    rfl
  · rw [MacroText.text, MacroText.lines, finishedLines, lines, linesOf, hls.lines]
    simp [List.flatMap_def, returnLine, MacroLine.statement]
  · rw [MacroText.summary, summary, hls.commands, hls.paths, hcommands]

end MacroHistory

/-! ## Plain calls -/

/-- Paths are no marshalers, and arguments hold none but texts to be spliced into the call. -/
def Operation.IsPlain (g : Graph) : Operation → Prop
  | .pushDirectory path => path.Plain g
  | .writeCommand _ arguments => ∀ v ∈ arguments, v.Plain g ∨ v.IsSplice g
  | _ => True

namespace Event

variable {g : Graph}

theorem isSpelled_push {path : Value} (hplain : path.Plain g) {literal : Text × List Char}
    (h : pathLiteral g path = .ok literal) : (push (directoryOf literal)).IsSpelled := by
  unfold pathLiteral at h
  split at h
  · obtain ⟨cs, hcs, rfl⟩ := Literal.exists_of_map_eq_ok h
    obtain ⟨d, hd, rfl⟩ := Literal.denotes_of_marshal hcs hplain
    cases path with
    | text t derived =>
      obtain ⟨path, rfl, rfl⟩ := hd.of_text
      rename_i heq
      cases heq
      exact ⟨path, rfl, rfl⟩
    | labelled t bytes => cases hplain.hasMarshalMethod
    | _ => simp_all [Value.text?]
  · cases h

/-- The literals of arguments are the texts of lists of data, more than one only where texts are spliced. -/
theorem exists_membersText_of_argumentLiterals {arguments : List Value} {i : Nat}
    {literals : List (List Char)} (h : argumentLiterals g i arguments = .ok literals)
    (hplain : ∀ v ∈ arguments, v.Plain g ∨ v.IsSplice g) :
    ∃ dss : List (List Datum), literals = dss.map Datum.membersText ∧ ∀ ds ∈ dss, ds ≠ [] := by
  induction arguments generalizing i literals with
  | nil =>
    cases h
    exact ⟨[], rfl, by simp⟩
  | cons v vs ih =>
    obtain ⟨literal, hliteral, h⟩ := Literal.exists_of_bind_eq_ok h
    obtain ⟨rest, hrest, h⟩ := Literal.exists_of_bind_eq_ok h
    cases h
    have hmarshal := Literal.eq_ok_of_mapError_eq_ok hliteral
    obtain ⟨ds, hne, rfl⟩ : ∃ ds, ds ≠ [] ∧ literal = Datum.membersText ds := by
      rcases hplain v (by simp) with hv | hv
      · obtain ⟨d, -, rfl⟩ := Literal.denotes_of_marshal hmarshal hv
        exact ⟨[d], by simp, by simp [Datum.membersText, Datum.moreText]⟩
      · exact Literal.exists_membersText_of_marshal hmarshal hv
    obtain ⟨dss, rfl, hdss⟩ := ih hrest fun w hw ↦ hplain w (by simp [hw])
    exact ⟨ds :: dss, rfl, List.forall_mem_cons.2 ⟨hne, hdss⟩⟩

/-- The arguments are plain or spliced, so their literals are the texts of data. -/
theorem isSpelled_command {name : Value} {method : List Char}
    (hname : Identifier.ofValue? name = some method) {arguments : List Value}
    (hplain : ∀ v ∈ arguments, v.Plain g ∨ v.IsSplice g) {literals : List (List Char)}
    (h : argumentLiterals g 1 arguments = .ok literals) : (command method literals).IsSpelled := by
  obtain ⟨dss, rfl, hdss⟩ := exists_membersText_of_argumentLiterals h hplain
  refine ⟨⟨name, hname⟩, dss.flatten, ?_⟩
  rw [callStatement, callStatement, Datum.intercalate_map_membersText _ hdss, Datum.intercalate_cons,
    Datum.moreText_eq]

end Event

/-! ## Runs -/

namespace Operation

/-- The name of a macro that is begun. -/
def begun? : Operation → Except Failure StepResult → Option (List Char)
  | beginMacro name, .ok _ => Identifier.ofValue? name
  | _, _ => none

/-- The name of a command that is written. -/
def commanded? : Operation → Except Failure StepResult → Option (List Char)
  | writeCommand name _, .ok _ => Identifier.ofValue? name
  | _, _ => none

end Operation

namespace Record

def begun? (r : Record) : Option (List Char) :=
  match r.action with
  | .operation op => op.begun? r.outcome
  | _ => none

def commanded? (r : Record) : Option (List Char) :=
  match r.action with
  | .operation op => op.commanded? r.outcome
  | _ => none

end Record

namespace History

/-- All macros that were begun. -/
def macros (h : History) : List MacroHistory := h.finished ++ h.current.toList

/-- A history recounts the records of a run, and its macros can be read back. -/
structure Recounts (records : List Record) (h : History) : Prop where
  spelled : ∀ m ∈ h.macros, m.IsSpelled
  closed : ∀ m ∈ h.finished, ∃ ds, Event.Unmatched m.events ds
  names : h.macros.map MacroHistory.name = records.filterMap Record.begun?
  commands : h.macros.flatMap (fun m ↦ m.events.filterMap Event.command?) =
    records.filterMap Record.commanded?

namespace Recounts

variable {records : List Record} {h : History} {r : Record}

/-- An operation that begins no macro and writes no command leaves the account as it is. -/
theorem same (hr : Recounts records h) (hbegun : r.begun? = none) (hcommanded : r.commanded? = none) :
    Recounts (records ++ [r]) h where
  spelled := hr.spelled
  closed := hr.closed
  names := by simp [hr.names, hbegun]
  commands := by simp [hr.commands, hcommanded]

theorem begin (hr : Recounts records h) (hcurrent : h.current = none) {name : Value}
    {used : List Char} (hname : Identifier.ofValue? name = some used) (hbegun : r.begun? = some used)
    (hcommanded : r.commanded? = none) :
    Recounts (records ++ [r]) { h with current := some ⟨used, []⟩ } where
  spelled m hm := by
    rcases List.mem_append.1 hm with hfinished | hlast
    · exact hr.spelled m (List.mem_append_left _ hfinished)
    · obtain rfl : m = ⟨used, []⟩ := by simpa using hlast
      exact ⟨⟨name, hname⟩, by simp⟩
  closed := hr.closed
  names := by
    have hnames := hr.names
    simp only [macros, hcurrent, Option.toList_none, List.append_nil] at hnames
    simp [macros, hnames, hbegun]
  commands := by
    have hcommands := hr.commands
    simp only [macros, hcurrent, Option.toList_none, List.append_nil] at hcommands
    simp [macros, hcommands, hcommanded]

/-- A macro that ends has only to have its pops matched; what was written before stays spelled. -/
theorem ended (hr : Recounts records h) {m : MacroHistory} (hm : h.current = some m)
    {ds : List Directory} (hunmatched : Event.Unmatched m.events ds) (hbegun : r.begun? = none)
    (hcommanded : r.commanded? = none) : Recounts (records ++ [r]) ⟨h.finished ++ [m], none⟩ := by
  have hmacros : macros ⟨h.finished ++ [m], none⟩ = h.macros := by simp [macros, hm]
  refine ⟨hmacros ▸ hr.spelled, ?_, ?_, ?_⟩
  · intro m' hm'
    rcases List.mem_append.1 hm' with hfinished | hlast
    · exact hr.closed m' hfinished
    · obtain rfl := List.mem_singleton.1 hlast
      exact ⟨ds, hunmatched⟩
  · simp [hmacros, hr.names, hbegun]
  · simp [hmacros, hr.commands, hcommanded]

theorem add (hr : Recounts records h) {m : MacroHistory} (hm : h.current = some m) {e : Event}
    (he : e.IsSpelled) (hbegun : r.begun? = none) (hcommanded : r.commanded? = e.command?) :
    Recounts (records ++ [r]) (h.add e) := by
  have hmacros : h.macros = h.finished ++ [m] := by simp [macros, hm]
  have hadd : (h.add e).macros = h.finished ++ [{ m with events := m.events ++ [e] }] := by
    simp [macros, History.add, hm]
  refine ⟨?_, hr.closed, ?_, ?_⟩
  · intro m' hm'
    rw [hadd] at hm'
    rcases List.mem_append.1 hm' with hfinished | hlast
    · exact hr.spelled m' (hmacros ▸ List.mem_append_left _ hfinished)
    · obtain rfl := List.mem_singleton.1 hlast
      have hspelled := hr.spelled m (by simp [hmacros])
      exact ⟨hspelled.name, List.forall_mem_append.2 ⟨hspelled.events, by simpa using he⟩⟩
  · have hnames := hr.names
    rw [hmacros] at hnames
    simpa [hadd, hbegun] using hnames
  · have hcommands := hr.commands
    rw [hmacros] at hcommands
    rw [hadd, List.filterMap_append, ← hcommands]
    cases hcommand : e.command? <;> simp [hcommanded, hcommand]

end Recounts

section Step

variable {g : Graph} {records : List Record} {h : History} {w : Writer}

theorem begun?_recordOf (op : Operation) :
    (Script.recordOf g op w).begun? = op.begun? ((op.run g).run w).1 := rfl

theorem commanded?_recordOf (op : Operation) :
    (Script.recordOf g op w).commanded? = op.commanded? ((op.run g).run w).1 := rfl

theorem Recounts.after_beginMacro (hr : Recounts records h) (ht : Tells g h w) (name : Value) :
    Recounts (records ++ [Script.recordOf g (.beginMacro name) w])
      (h.after g (.beginMacro name) (((Operation.beginMacro name).run g).run w).1) := by
  have hbegun := begun?_recordOf (g := g) (w := w) (.beginMacro name)
  rw [Operation.run, run_bind_pure] at hbegun ⊢
  cases hcurrent : w.current with
  | some current =>
    simp only [run_beginMacro_of_writing w hcurrent, Except.map] at hbegun ⊢
    exact hr.same hbegun rfl
  | none =>
    cases hname : Identifier.ofValue? name with
    | none =>
      simp only [run_beginMacro_of_invalid w hcurrent hname, Except.map] at hbegun ⊢
      exact hr.same hbegun rfl
    | some used =>
      simp only [run_beginMacro_of_valid w hcurrent hname, Except.map] at hbegun ⊢
      simpa [after, hname] using
        hr.begin (ht.idle_of_current hcurrent) hname (hbegun.trans hname) rfl

theorem Recounts.after_endMacro (hr : Recounts records h) (ht : Tells g h w) :
    Recounts (records ++ [Script.recordOf g .endMacro w])
      (h.after g .endMacro ((Operation.endMacro.run g).run w).1) := by
  cases hcurrent : w.current with
  | none =>
    rw [Operation.run_of_idle hcurrent rfl]
    exact hr.same rfl rfl
  | some current =>
    rw [Operation.run, run_bind_pure]
    obtain ⟨m, hm, rfl⟩ := ht.exists_of_current hcurrent
    have hended := hr.ended (r := Script.recordOf g .endMacro w) hm (ht.unmatched m hm) rfl rfl
    rw [run_endMacro_of_neverRefuses w hcurrent ht.sink ht.indent, run_flushSink]
    split <;> simpa [Except.map, after, hm] using hended

theorem Recounts.after_pushDirectory (hr : Recounts records h) (ht : Tells g h w) {path : Value}
    (hplain : path.Plain g) :
    Recounts (records ++ [Script.recordOf g (.pushDirectory path) w])
      (h.after g (.pushDirectory path) (((Operation.pushDirectory path).run g).run w).1) := by
  cases hcurrent : w.current with
  | none =>
    rw [Operation.run_of_idle hcurrent rfl]
    exact hr.same rfl rfl
  | some current =>
    rw [Operation.run, run_bind_pure]
    obtain ⟨m, hm, rfl⟩ := ht.exists_of_current hcurrent
    cases hpath : pathLiteral g path with
    | error e =>
      simpa [run_pushDirectory_of_error w hcurrent hpath, Except.map, after] using hr.same rfl rfl
    | ok literal =>
      simpa [run_pushDirectory_of_ok w hcurrent ht.indent hpath, Except.map, after, directoryAt_of_ok hpath]
        using hr.add hm (Event.isSpelled_push hplain hpath) rfl rfl

/-- Neither the names of macros nor those of commands change with a pop. -/
theorem Recounts.after_popDirectory (hr : Recounts records h) :
    Recounts (records ++ [Script.recordOf g .popDirectory w])
      (h.after g .popDirectory ((Operation.popDirectory.run g).run w).1) := by
  have hsame : Recounts (records ++ [Script.recordOf g .popDirectory w]) h := hr.same rfl rfl
  cases ((Operation.popDirectory.run g).run w).1 with
  | error e => exact hsame
  | ok result =>
    cases hcurrent : h.current with
    | none =>
      have hadd : h.add .pop = h := by rw [History.add, hcurrent, Option.map_none, ← hcurrent]
      rwa [after, hadd]
    | some m => exact hr.add hcurrent trivial rfl rfl

/-- A command that is refused for an argument leaves a mark, which spells nothing. -/
theorem Recounts.after_writeCommand (hr : Recounts records h) (ht : Tells g h w) (name : Value)
    {arguments : List Value} (hplain : ∀ v ∈ arguments, v.Plain g ∨ v.IsSplice g) :
    Recounts (records ++ [Script.recordOf g (.writeCommand name arguments) w])
      (h.after g (.writeCommand name arguments)
        (((Operation.writeCommand name arguments).run g).run w).1) := by
  have hcommanded := commanded?_recordOf (g := g) (w := w) (.writeCommand name arguments)
  cases hcurrent : w.current with
  | none =>
    rw [Operation.run_of_idle hcurrent rfl] at hcommanded ⊢
    exact hr.same rfl hcommanded
  | some current =>
    rw [Operation.run, run_bind_pure] at hcommanded ⊢
    obtain ⟨m, hm, rfl⟩ := ht.exists_of_current hcurrent
    cases hname : Identifier.ofValue? name with
    | none =>
      simp only [run_writeCommand_of_invalid w hcurrent hname, Except.map] at hcommanded ⊢
      exact hr.same rfl hcommanded
    | some method =>
      cases hliterals : argumentLiterals g 1 arguments with
      | error e =>
        simp only [run_writeCommand_of_error w hcurrent ht.sink hname hliterals, Except.map]
          at hcommanded ⊢
        exact hr.add hm trivial rfl hcommanded
      | ok literals =>
        simp only [run_writeCommand_of_ok w hcurrent ht.sink ht.indent hname hliterals, Except.map]
          at hcommanded ⊢
        simpa [after, commandOf, hname, hliterals] using
          hr.add hm (Event.isSpelled_command hname hplain hliterals) rfl (hcommanded.trans hname)

/-- Every operation is recounted. -/
theorem Recounts.after (hr : Recounts records h) (ht : Tells g h w) {op : Operation}
    (hop : op.IsPlain g) :
    Recounts (records ++ [Script.recordOf g op w]) (h.after g op ((op.run g).run w).1) := by
  cases op with
  | beginMacro name => exact hr.after_beginMacro ht name
  | endMacro => exact hr.after_endMacro ht
  | pushDirectory path => exact hr.after_pushDirectory ht hop
  | popDirectory => exact hr.after_popDirectory
  | writeCommand name arguments => exact hr.after_writeCommand ht name hop
  | raise message => exact hr.same rfl rfl

end Step

/-- By induction on the run from the right, together with what the history tells of the writer. -/
theorem recounts_freshRun {g : Graph} (refusesFlush : Nat → Bool) {ops : List Operation}
    (hops : ∀ op ∈ ops, op.IsPlain g) :
    Recounts (Script.freshRun g refusesFlush ops).1
      (ofRecords g (Script.freshRun g refusesFlush ops).1) := by
  induction ops using List.reverseRecOn with
  | nil => exact ⟨by simp [macros, ofRecords, Script.freshRun, Script.runOperations, Script.run, empty],
      by simp [ofRecords, Script.freshRun, Script.runOperations, Script.run, empty], rfl, rfl⟩
  | append_singleton ops op ih =>
    rw [Script.freshRun, Script.runOperations_append_singleton, ofRecords_append_singleton]
    exact (ih fun op' hop' ↦ hops op' (by simp [hop'])).after (tells_freshRun g refusesFlush ops)
      (hops op (by simp))

/-- The macros that have ended are those of a text without fault. -/
theorem exists_macroTexts {records : List Record} {h : History} (hr : Recounts records h)
    (hkeywords : ∀ m ∈ h.finished, m.AvoidsKeywords) :
    ∃ ts : List MacroText, (∀ t ∈ ts, t.IsGood) ∧
      ts.flatMap MacroText.text = h.finishedLines.flatten ∧
      ts.map MacroText.summary = h.finished.map MacroHistory.summary := by
  have hspelled : ∀ m ∈ h.finished, m.IsSpelled := fun m hm ↦
    hr.spelled m (List.mem_append_left _ hm)
  have hclosed := hr.closed
  rw [finishedLines]
  generalize h.finished = ms at *
  induction ms with
  | nil => exact ⟨[], by simp, rfl, rfl⟩
  | cons m ms ih =>
    obtain ⟨ts, hgood, htext, hsummary⟩ := ih (fun m hm ↦ hkeywords m (by simp [hm]))
      (fun m hm ↦ hspelled m (by simp [hm])) (fun m hm ↦ hclosed m (by simp [hm]))
    obtain ⟨ds, hds⟩ := hclosed m (by simp)
    obtain ⟨t, hgood', htext', hsummary'⟩ :=
      (hspelled m (by simp)).exists_macroText (hkeywords m (by simp)) hds
    refine ⟨t :: ts, List.forall_mem_cons.2 ⟨hgood', hgood⟩, ?_, ?_⟩
    · rw [List.flatMap_cons, List.flatMap_cons, List.flatten_append, htext, htext']
    · rw [List.map_cons, List.map_cons, hsummary, hsummary']

/-- Whenever no macro is being written, the text in the sink is accepted, and its summaries are those of the
macros that were begun, with their commands and the directories that were not withdrawn. -/
theorem summarize_text_of_idle (g : Graph) (refusesFlush : Nat → Bool) (ops : List Operation)
    (hops : ∀ op ∈ ops, op.IsPlain g) :
    let run := Script.freshRun g refusesFlush ops
    let h := ofRecords g run.1
    (∀ m ∈ h.finished, m.AvoidsKeywords) → run.2.current = none →
      (∃ verdict, Verdict.ofSource run.2.sink.text = .ok verdict ∧ verdict.ok = true ∧
        verdict.errors = []) ∧
      summarize run.2.sink.text = .ok (h.finished.map MacroHistory.summary) ∧
      h.finished.map MacroHistory.name = run.1.filterMap Record.begun? ∧
      h.finished.flatMap (fun m ↦ m.summary.commands) = run.1.filterMap Record.commanded? := by
  intro run h hkeywords hidle
  have ht : Tells g h run.2 := tells_freshRun g refusesFlush ops
  have hr : Recounts run.1 h := recounts_freshRun refusesFlush hops
  have hnone := ht.idle_of_current hidle
  have hmacros : h.macros = h.finished := by simp [macros, hnone]
  obtain ⟨ts, hgood, htext, hsummary⟩ := exists_macroTexts hr hkeywords
  have hsink : run.2.sink.text = ts.flatMap MacroText.text := by
    rw [Sink.text, (ht.idle hnone).1, htext]
  obtain ⟨hverdict, hsummaries⟩ := MacroText.verdict_eq hgood
  rw [← hsink] at hverdict hsummaries
  refine ⟨⟨_, hverdict, rfl, rfl⟩, hsummary ▸ hsummaries, ?_, ?_⟩
  · rw [← hr.names, hmacros]
  · rw [← hr.commands, hmacros]
    rfl

/-- A failed command, a command with spliced texts, and an empty directory inside another one. -/
def splicedCommand : List Operation :=
  [.beginMacro (.text "if" false), .pushDirectory (.text "a\"b" false),
    .writeCommand (.text "x-y" false) [],
    .writeCommand (.text "x" false) [.arguments [.text "k" false], .sequence .tuple [.int 1 true]],
    .pushDirectory (.text "c" false), .popDirectory, .popDirectory, .endMacro]

def splicedMacro : MacroHistory where
  name := "if_".toList
  events :=
    [.push ⟨"a\"b", "    ctx = ctx.push_directory(ctx, \"a\\\"b\")\n".toList⟩,
      .command ['x'] ["\"k\"".toList, "(1,)".toList],
      .push ⟨"c", "    ctx = ctx.push_directory(ctx, \"c\")\n".toList⟩, .pop, .pop]

theorem isPlain_of_mem_splicedCommand : ∀ op ∈ splicedCommand, op.IsPlain .empty := by
  intro op hop
  simp only [splicedCommand, List.mem_cons, List.not_mem_nil, or_false] at hop
  rcases hop with rfl | rfl | rfl | rfl | rfl | rfl | rfl | rfl
  · trivial
  · exact .text _ _
  · exact fun v hv ↦ absurd hv List.not_mem_nil
  · intro v hv
    simp only [List.mem_cons, List.not_mem_nil, or_false] at hv
    rcases hv with rfl | rfl
    · exact .inr ⟨_, rfl, by simp, fun w hw ↦ List.mem_singleton.1 hw ▸ .text _ _⟩
    · exact .inl (.sequence fun w hw ↦ List.mem_singleton.1 hw ▸ .int _ _)
  · exact .text _ _
  · trivial
  · trivial
  · trivial

theorem summarize_text_of_idle_splicedCommand :
    summarize (Script.freshRun .empty (fun _ ↦ false) splicedCommand).2.sink.text =
      .ok [⟨"if_".toList, [['x']], ["a\"b"]⟩] := by
  have hfinished : (ofRecords .empty
      (Script.freshRun .empty (fun _ ↦ false) splicedCommand).1).finished = [splicedMacro] := by
    decide +kernel
  have hkeywords : splicedMacro.AvoidsKeywords := by
    constructor <;> decide +kernel
  have hsummary : splicedMacro.summary = ⟨"if_".toList, [['x']], ["a\"b"]⟩ := by decide +kernel
  obtain ⟨-, hsummaries, -⟩ := summarize_text_of_idle .empty (fun _ ↦ false) splicedCommand
    isPlain_of_mem_splicedCommand
    (fun m hm ↦ by rw [hfinished, List.mem_singleton] at hm; exact hm ▸ hkeywords)
    (by decide +kernel)
  rw [hsummaries, hfinished, List.map_singleton, hsummary]

end History

end StarlarkMacro
