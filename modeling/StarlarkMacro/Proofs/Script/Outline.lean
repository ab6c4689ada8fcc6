import StarlarkMacro.Proofs.Script.Started
import StarlarkMacro.Proofs.Writer.History

/-!
# Steps inside a macro

What blocks, commands and raised errors do inside a macro is their outline, which is told by the steps alone:
their lines, whether a command was attempted among them, and whether they fail. A directory stands in the
outline with its two transitions around its content if a command was attempted inside it, and not at all
otherwise. What carries the proof is that a body either leaves the buffer as it found it or has emptied it.
-/

namespace StarlarkMacro

open Writer

/-- Commands and raised errors, and blocks of both kinds around them to any depth. -/
inductive Step.IsStructured : Step → Prop
  | command (name : Value) (arguments : List Value) (caught : Bool) :
      IsStructured (.operation (.writeCommand name arguments) caught)
  | raise (message : Text) (caught : Bool) : IsStructured (.operation (.raise message) caught)
  | block (kind : BlockKind) (argument : Value) {body : List Step} (caught : Bool)
      (inner : ∀ step ∈ body, IsStructured step) : IsStructured (.block kind argument body caught)

/-- Whether a step is a command with a valid name. -/
def Step.attemptsCommand : Step → Bool
  | .operation (.writeCommand name _) _ => (Identifier.ofValue? name).isSome
  | _ => false

/-- What steps leave in a macro. -/
structure Outline where
  lines : List (List Char)
  /-- Whether a command with a valid name was attempted. -/
  attempted : Bool
  failed : Bool

namespace Outline

def nothing : Outline := ⟨[], false, false⟩

def failure : Outline := ⟨[], false, true⟩

/-- The outline of steps behind others. -/
def append (first rest : Outline) : Outline :=
  ⟨first.lines ++ rest.lines, first.attempted || rest.attempted, rest.failed⟩

instance : Append Outline := ⟨append⟩

@[simp] theorem lines_append (first rest : Outline) :
    (first ++ rest).lines = first.lines ++ rest.lines := rfl

@[simp] theorem attempted_append (first rest : Outline) :
    (first ++ rest).attempted = (first.attempted || rest.attempted) := rfl

def popLine : List Char := statementLine popStatement

/-- A directory around steps. -/
def inside (d : Directory) (o : Outline) : Outline :=
  { o with lines := if o.attempted then d.line :: o.lines ++ [popLine] else [] }

/-- A command with a bad argument is attempted all the same. -/
def ofCommand (g : Graph) (name : Value) (arguments : List Value) : Outline :=
  match Identifier.ofValue? name with
  | none => failure
  | some method =>
    match argumentLiterals g 1 arguments with
    | .error _ => ⟨[], true, true⟩
    | .ok literals => ⟨[statementLine (callStatement method literals)], true, false⟩

mutual

/-- The outline of a step inside a macro, where no macro is begun. -/
def ofStep (g : Graph) : Step → Outline
  | .operation (.writeCommand name arguments) _ => ofCommand g name arguments
  | .operation _ _ => failure
  | .block .ofMacro _ _ _ => failure
  | .block .ofDirectory path body _ =>
    match pathLiteral g path with
    | .error _ => failure
    | .ok literal => inside (directoryOf literal) (ofBody g body)

/-- The outline of a body, which ends with the first failure that is not caught. -/
def ofBody (g : Graph) : List Step → Outline
  | [] => nothing
  | step :: rest =>
    if (ofStep g step).failed && !step.caught then ofStep g step else ofStep g step ++ ofBody g rest

end

/-- The lines of a step outside a macro, where only a macro can be begun. -/
def macroLines (g : Graph) : Step → List (List Char)
  | .block .ofMacro name body _ =>
    match Identifier.ofValue? name with
    | none => []
    | some used => header used :: (ofBody g body).lines ++ [MacroHistory.returnLine]
  | _ => []

end Outline

namespace Writer

/-- Every line is taken, and lines are indented as usual. -/
structure IsSteady (w : Writer) : Prop where
  sink : w.sink.NeverRefuses
  indent : w.pending.indent = StatementBuffer.standardIndent

/-- The later state of a macro has the text of an outline behind that of the earlier. -/
structure Grows (w : Writer) (o : Outline) (later : Writer) : Prop where
  steady : later.IsSteady
  current : later.current = w.current
  directories : later.directories = w.directories
  log : ∀ r ∈ later.log, r ∈ w.log ∨ r.level = .debug
  /-- As long as no command is attempted, the buffer is as it was. -/
  waits : o.attempted = false → o.lines = [] ∧ later.sink.stored = w.sink.stored ∧
    later.pending.lines = w.pending.lines
  settled : o.attempted = true → later.pending.lines = [] ∧ later.sink.stored = w.text ++ o.lines

namespace Grows

variable {w w₁ w₂ : Writer} {o o₁ o₂ : Outline}

theorem text (h : Grows w o w₁) : w₁.text = w.text ++ o.lines := by
  cases hattempted : o.attempted with
  | false =>
    obtain ⟨hlines, hstored, hpending⟩ := h.waits hattempted
    rw [Writer.text, Writer.text, hlines, hstored, hpending, List.append_nil]
  | true =>
    obtain ⟨hpending, hstored⟩ := h.settled hattempted
    rw [Writer.text, hpending, hstored, List.append_nil]

/-- Nothing happens. -/
theorem same (h : w.IsSteady) (hattempted : o.attempted = false) (hlines : o.lines = []) :
    Grows w o w where
  steady := h
  current := rfl
  directories := rfl
  log _ hr := .inl hr
  waits _ := ⟨hlines, rfl, rfl⟩
  settled htrue := absurd (hattempted.symm.trans htrue) Bool.false_ne_true

/-- What waited is stored, and the lines of the outline behind it. -/
theorem of_stored (h : w₁.IsSteady) (hcurrent : w₁.current = w.current)
    (hdirectories : w₁.directories = w.directories) (hlog : w₁.log = w.log)
    (hattempted : o.attempted = true) (hempty : w₁.pending.lines = [])
    (hstored : w₁.sink.stored = w.text ++ o.lines) : Grows w o w₁ where
  steady := h
  current := hcurrent
  directories := hdirectories
  log _ hr := .inl (hlog ▸ hr)
  waits hfalse := absurd (hattempted.symm.trans hfalse) Bool.false_ne_true.symm
  settled _ := ⟨hempty, hstored⟩

theorem append (h₁ : Grows w o₁ w₁) (h₂ : Grows w₁ o₂ w₂) : Grows w (o₁ ++ o₂) w₂ where
  steady := h₂.steady
  current := h₂.current.trans h₁.current
  directories := h₂.directories.trans h₁.directories
  log r hr := (h₂.log r hr).elim (h₁.log r) .inr
  waits hnot := by
    obtain ⟨hnot₁, hnot₂⟩ := Bool.or_eq_false_iff.1 hnot
    obtain ⟨hlines₁, hstored₁, hpending₁⟩ := h₁.waits hnot₁
    obtain ⟨hlines₂, hstored₂, hpending₂⟩ := h₂.waits hnot₂
    refine ⟨?_, hstored₂.trans hstored₁, hpending₂.trans hpending₁⟩
    rw [Outline.lines_append, hlines₁, hlines₂, List.append_nil]
  settled hattempted := by
    rw [Outline.lines_append, ← List.append_assoc, ← h₁.text]
    cases hsecond : o₂.attempted with
    | true => exact h₂.settled hsecond
    | false =>
      have hfirst : o₁.attempted = true := by
        simpa [Outline.attempted_append, hsecond] using hattempted
      obtain ⟨hlines, hstored, hpending⟩ := h₂.waits hsecond
      have hempty := (h₁.settled hfirst).1
      rw [hlines, hstored, hpending, Writer.text, hempty, List.append_nil, List.append_nil]
      exact ⟨rfl, rfl⟩

section Popped

variable {g : Graph} {path : Value} {literal : Text × List Char}
  (h : Grows (w.pushed g path) o w₁) (hpath : pathLiteral g path = .ok literal)

include h

theorem dropLast_directories : w₁.directories.dropLast = w.directories := by
  rw [h.directories]
  exact List.dropLast_concat

include hpath

/-- The content of a directory has closed what it has opened, so the directory itself is innermost. -/
theorem innermost : w₁.Innermost g (directoryOf literal) := by
  refine ⟨path, literal, ?_, hpath, rfl⟩
  rw [h.directories]
  exact List.getLast?_concat

theorem lines_of_not_attempted (hattempted : o.attempted = false) :
    w₁.pending.lines = w.pending.lines ++ [(directoryOf literal).line] := by
  rw [← directoryAt_of_ok hpath]
  exact (h.waits hattempted).2.2

/-- Without a command inside, the push is withdrawn and nothing is left of the directory. -/
theorem withdrawn (hattempted : o.attempted = false) (name : List Char) :
    Grows w (o.inside (directoryOf literal)) (w₁.withdrawn name (directoryOf literal)) where
  steady := ⟨h.steady.sink, h.steady.indent⟩
  current := h.current
  directories := h.dropLast_directories
  log r hr := by
    obtain hr | hr := List.mem_append.1 hr
    · exact h.log r hr
    · rw [List.mem_singleton.1 hr]
      exact .inr rfl
  waits _ := by
    refine ⟨?_, (h.waits hattempted).2.1, ?_⟩
    · rw [Outline.inside, hattempted, if_neg Bool.false_ne_true]
    · change w₁.pending.lines.dropLast = w.pending.lines
      rw [h.lines_of_not_attempted hpath hattempted, List.dropLast_concat]
  settled htrue := absurd (hattempted.symm.trans htrue) Bool.false_ne_true

/-- With a command inside, the push was written, and the pop gets a line to match it. -/
theorem popped (hattempted : o.attempted = true) :
    Grows w (o.inside (directoryOf literal))
      (w₁.left.drained.storing (statementLine popStatement)) where
  steady := ⟨h.steady.sink, h.steady.indent⟩
  current := h.current
  directories := h.dropLast_directories
  log := h.log
  waits hfalse := absurd (hattempted.symm.trans hfalse) Bool.false_ne_true.symm
  settled _ := by
    obtain ⟨hempty, hstored⟩ := h.settled hattempted
    have htext : (w.pushed g path).text = w.text ++ [(directoryOf literal).line] := by
      simp [Writer.text, pushed, directoryAt_of_ok hpath]
    refine ⟨rfl, ?_⟩
    simp [Outline.inside, hattempted, drained, left, storing, hempty, hstored, htext, Outline.popLine]

/-- A directory is closed behind its content, in one way or the other. -/
theorem exists_popped {name : List Char} (hcurrent : w.current = some name) :
    ∃ w₂, (popDirectory g).run w₁ = (.ok literal.1, w₂) ∧
      Grows w (o.inside (directoryOf literal)) w₂ := by
  have hcurrent₁ : w₁.current = some name := h.current.trans hcurrent
  cases hattempted : o.attempted with
  | false =>
    have hwaits : w₁.pending.lines.getLast? = some (directoryOf literal).line := by
      rw [h.lines_of_not_attempted hpath hattempted, List.getLast?_concat]
    exact ⟨_, run_popDirectory_of_waiting w₁ hcurrent₁ h.steady.indent (h.innermost hpath) hwaits,
      h.withdrawn hpath hattempted name⟩
  | true =>
    have hnot : w₁.pending.lines.getLast? ≠ some (directoryOf literal).line := by
      simp [(h.settled hattempted).1]
    exact ⟨_, run_popDirectory_of_neverRefuses w₁ hcurrent₁ h.steady.sink h.steady.indent
      (h.innermost hpath) hnot, h.popped hpath hattempted⟩

end Popped

end Grows

end Writer

/-! ## Steps inside a macro -/

namespace Script

section Inside

variable {g : Graph} {w : Writer} {current : List Char}

theorem grows_writeCommand (hw : w.IsSteady) (hcurrent : w.current = some current) (name : Value)
    (arguments : List Value) :
    Grows w (.ofCommand g name arguments) ((writeCommand g name arguments).run w).2 ∧
      (failure? ((writeCommand g name arguments).run w).1).isSome =
        (Outline.ofCommand g name arguments).failed := by
  cases hname : Identifier.ofValue? name with
  | none =>
    rw [run_writeCommand_of_invalid w hcurrent hname, Outline.ofCommand, hname]
    exact ⟨.same hw rfl rfl, rfl⟩
  | some method =>
    cases hliterals : argumentLiterals g 1 arguments with
    | error e =>
      rw [run_writeCommand_of_error w hcurrent hw.sink hname hliterals, Outline.ofCommand, hname,
        hliterals]
      refine ⟨.of_stored ⟨hw.sink, hw.indent⟩ rfl rfl rfl rfl rfl ?_, rfl⟩
      exact (List.append_nil w.text).symm
    | ok literals =>
      rw [run_writeCommand_of_ok w hcurrent hw.sink hw.indent hname hliterals, Outline.ofCommand,
        hname, hliterals]
      exact ⟨.of_stored ⟨hw.sink, hw.indent⟩ rfl rfl rfl rfl rfl rfl, rfl⟩

theorem run_enter_ofMacro_of_writing (hcurrent : w.current = some current) (name : Value) :
    ∃ e, (BlockKind.ofMacro.enter g name).run w = (.error e, w) :=
  ⟨_, by rw [run_enter_ofMacro, run_beginMacro_of_writing w hcurrent]; rfl⟩

theorem run_enter_ofDirectory_of_error (hcurrent : w.current = some current) {path : Value}
    {e : EncodingError} (hpath : pathLiteral g path = .error e) :
    ∃ e, (BlockKind.ofDirectory.enter g path).run w = (.error e, w) :=
  ⟨_, by rw [run_enter_ofDirectory, run_pushDirectory_of_error w hcurrent hpath]; rfl⟩

theorem run_enter_ofDirectory_of_ok (hw : w.IsSteady) (hcurrent : w.current = some current)
    {path : Value} {literal : Text × List Char} (hpath : pathLiteral g path = .ok literal) :
    ∃ result, (BlockKind.ofDirectory.enter g path).run w =
      (.ok result, w.pushed g path) :=
  ⟨_, by rw [run_enter_ofDirectory, run_pushDirectory_of_ok w hcurrent hw.indent hpath]; rfl⟩

/-- A directory block is left behind its content, whether or not the content failed. -/
theorem exists_leaveBlock_ofDirectory {path : Value} {literal : Text × List Char} {o : Outline}
    {w₁ : Writer} (h : Grows (w.pushed g path) o w₁) (hpath : pathLiteral g path = .ok literal)
    (hcurrent : w.current = some current) (failure : Option Failure) :
    ∃ w₂, leaveBlock g .ofDirectory failure w₁ = (failure, false, w₂) ∧
      Grows w (o.inside (directoryOf literal)) w₂ := by
  obtain ⟨w₂, hpop, hgrows⟩ := h.exists_popped hpath hcurrent
  have hdirectories : w₁.directories ≠ [] := by
    rw [h.directories]
    exact List.concat_ne_nil path w.directories
  refine ⟨w₂, leaveBlock_of_ok ?_, hgrows⟩
  rw [run_leave_ofDirectory (h.current.trans hcurrent) hdirectories, hpop]
  rfl

mutual

/-- A step goes as its outline says. -/
theorem grows_runStep : ∀ (step : Step) {w : Writer}, step.IsStructured → w.IsSteady →
    w.current = some current → Grows w (.ofStep g step) (runStep g step w).2.2 ∧
      (runStep g step w).2.1.isSome = (Outline.ofStep g step).failed
  | .operation (.writeCommand name arguments) caught, w, _, hw, hcurrent => by
    obtain ⟨hgrows, hfailed⟩ := grows_writeCommand (g := g) hw hcurrent name arguments
    rw [runStep_operation, Operation.run, run_bind_pure, Outline.ofStep]
    refine ⟨hgrows, hfailed ▸ ?_⟩
    cases ((writeCommand g name arguments).run w).1 <;> rfl
  | .operation (.raise message) _, _, _, hw, _ => ⟨.same hw rfl rfl, rfl⟩
  | .block .ofMacro name body caught, w, _, hw, hcurrent => by
    obtain ⟨e, hentered⟩ := run_enter_ofMacro_of_writing (g := g) hcurrent name
    rw [snd_runStep_block_of_refused hentered, Outline.ofStep]
    exact ⟨.same hw rfl rfl, rfl⟩
  | .block .ofDirectory path body caught, w, .block _ _ _ hinner, hw, hcurrent => by
    rw [Outline.ofStep]
    cases hpath : pathLiteral g path with
    | error e =>
      obtain ⟨e, hentered⟩ := run_enter_ofDirectory_of_error hcurrent hpath
      rw [snd_runStep_block_of_refused hentered]
      exact ⟨.same hw rfl rfl, rfl⟩
    | ok literal =>
      obtain ⟨result, hentered⟩ := run_enter_ofDirectory_of_ok hw hcurrent hpath
      obtain ⟨hgrows, hfailed⟩ := grows_runBody body (w := w.pushed g path) hinner
        ⟨hw.sink, hw.indent⟩ hcurrent
      obtain ⟨w₂, hleave, hleft⟩ := exists_leaveBlock_ofDirectory hgrows hpath hcurrent
        (runBody g body (w.pushed g path)).2.1
      rw [snd_runStep_block_of_entered hentered, hleave]
      exact ⟨hleft, hfailed⟩

/-- The same for the steps of a body, up to the first failure that is not caught. -/
theorem grows_runBody : ∀ (body : List Step) {w : Writer}, (∀ step ∈ body, step.IsStructured) →
    w.IsSteady → w.current = some current → Grows w (.ofBody g body) (runBody g body w).2.2 ∧
      (runBody g body w).2.1.isSome = (Outline.ofBody g body).failed
  | [], _, _, hw, _ => ⟨.same hw rfl rfl, rfl⟩
  | step :: rest, w, h, hw, hcurrent => by
    obtain ⟨hgrows, hfailed⟩ := grows_runStep step (h step List.mem_cons_self) hw hcurrent
    obtain ⟨hrest, hfailedRest⟩ := grows_runBody rest (w := (runStep g step w).2.2)
      (fun s hs ↦ h s (List.mem_cons_of_mem step hs)) hgrows.steady (hgrows.current.trans hcurrent)
    rw [snd_runBody_cons, Outline.ofBody, ← hfailed, endsBody]
    cases ((runStep g step w).2.1.isSome && !step.caught) with
    | true => exact ⟨hgrows, hfailed⟩
    | false => exact ⟨hgrows.append hrest, hfailedRest⟩

end

mutual

/-- The steps that are started inside a macro are as good as the one that starts them, and a command is
attempted among them exactly if the outline says so. -/
theorem started_of_isStructured : ∀ (step : Step) {w : Writer}, step.IsStructured → w.IsSteady →
    w.current = some current →
    (∀ p ∈ started g step w, p.1.IsStructured ∧ p.2.IsSteady ∧ p.2.current = some current) ∧
      (started g step w).any (fun p ↦ p.1.attemptsCommand) = (Outline.ofStep g step).attempted
  | .operation op caught, w, h, hw, hcurrent => by
    rw [started]
    refine ⟨List.forall_mem_singleton.2 ⟨h, hw, hcurrent⟩, ?_⟩
    cases h with
    | command name arguments =>
      rw [Outline.ofStep, Outline.ofCommand]
      cases hname : Identifier.ofValue? name with
      | none => simp [Step.attemptsCommand, hname, Outline.failure]
      | some method =>
        cases hliterals : argumentLiterals g 1 arguments <;>
          simp [Step.attemptsCommand, hname]
    | raise message => rfl
  | .block .ofMacro name body caught, w, h, hw, hcurrent => by
    obtain ⟨e, hentered⟩ := run_enter_ofMacro_of_writing (g := g) hcurrent name
    rw [started, hentered]
    exact ⟨List.forall_mem_singleton.2 ⟨h, hw, hcurrent⟩, rfl⟩
  | .block .ofDirectory path body caught, w, h, hw, hcurrent => by
    rw [started, Outline.ofStep]
    cases hpath : pathLiteral g path with
    | error e =>
      obtain ⟨e, hentered⟩ := run_enter_ofDirectory_of_error hcurrent hpath
      rw [hentered]
      exact ⟨List.forall_mem_singleton.2 ⟨h, hw, hcurrent⟩, rfl⟩
    | ok literal =>
      obtain ⟨result, hentered⟩ := run_enter_ofDirectory_of_ok hw hcurrent hpath
      rw [hentered]
      cases h with
      | block _ _ _ hinner =>
      obtain ⟨hall, hattempted⟩ := startedIn_of_isStructured body
        (w := w.pushed g path) hinner ⟨hw.sink, hw.indent⟩ hcurrent
      exact ⟨List.forall_mem_cons.2 ⟨⟨.block _ _ _ hinner, hw, hcurrent⟩, hall⟩, hattempted⟩

theorem startedIn_of_isStructured : ∀ (body : List Step) {w : Writer},
    (∀ step ∈ body, step.IsStructured) → w.IsSteady → w.current = some current →
    (∀ p ∈ startedIn g body w, p.1.IsStructured ∧ p.2.IsSteady ∧ p.2.current = some current) ∧
      (startedIn g body w).any (fun p ↦ p.1.attemptsCommand) = (Outline.ofBody g body).attempted
  | [], _, _, _, _ => ⟨fun _ hp ↦ absurd hp List.not_mem_nil, rfl⟩
  | step :: rest, w, h, hw, hcurrent => by
    have hstep := h step List.mem_cons_self
    obtain ⟨hgrows, hfailed⟩ := grows_runStep (g := g) step hstep hw hcurrent
    obtain ⟨hall, hattempted⟩ := started_of_isStructured step hstep hw hcurrent
    obtain ⟨hallRest, hattemptedRest⟩ := startedIn_of_isStructured rest (w := (runStep g step w).2.2)
      (fun s hs ↦ h s (List.mem_cons_of_mem step hs)) hgrows.steady (hgrows.current.trans hcurrent)
    rw [startedIn, Outline.ofBody, ← hfailed, endsBody, List.any_append, hattempted]
    cases ((runStep g step w).2.1.isSome && !step.caught) with
    | true => simpa using hall
    | false =>
      refine ⟨fun p hp ↦ (List.mem_append.1 hp).elim (hall p) (hallRest p), ?_⟩
      simp [hattemptedRest]

end

end Inside

end Script

end StarlarkMacro
