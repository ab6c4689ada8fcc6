import StarlarkMacro.Proofs.Script.Outline
import StarlarkMacro.Proofs.Writer.Representation

/-!
# Scripts of blocks

Outside a macro, blocks, commands and raised errors do nothing but write macros. On a sink that takes every
line the text of a run is what the outlines of its steps say, each step leaves the directories as it found
them, and no macro ends inside a directory.
-/

namespace StarlarkMacro

open Writer

namespace Script

/-! ## Steps outside a macro -/

section Outside

variable {g : Graph} {w : Writer}

/-- No macro is being written before and after, and the text has grown by lines. -/
structure Rests (w : Writer) (lines : List (List Char)) (later : Writer) : Prop where
  steady : later.IsSteady
  isNew : later.IsNew
  stored : later.sink.stored = w.sink.stored ++ lines
  log : ∀ r ∈ later.log, r ∈ w.log ∨ r.level = .debug

theorem Rests.same (hw : w.IsSteady) (hnew : w.IsNew) : Rests w [] w :=
  ⟨hw, hnew, (List.append_nil _).symm, fun _ hr ↦ .inl hr⟩

/-- A macro block is left behind its content, even if the flush is refused. -/
theorem rests_leaveBlock_ofMacro {used : List Char} {o : Outline} {w₁ : Writer} (hnew : w.IsNew)
    (h : Grows (w.begun used) o w₁) (failure : Option Failure) :
    Rests w (header used :: o.lines ++ [MacroHistory.returnLine])
      (leaveBlock g .ofMacro failure w₁).2.2 := by
  have hcurrent : w₁.current = some used := h.current
  have hdirectories : w₁.directories = [] := h.directories.trans hnew.directories
  have hrun := run_endMacro_of_neverRefuses w₁ hcurrent h.steady.sink h.steady.indent
  rw [run_flushSink, ← run_leave_ofMacro hcurrent failure.isSome] at hrun
  have hlater : (leaveBlock g .ofMacro failure w₁).2.2 =
      ((BlockKind.ofMacro.leave g failure.isSome).run w₁).2 := by
    rw [leaveBlock]
    rcases (BlockKind.ofMacro.leave g failure.isSome).run w₁ with ⟨_ | _, _⟩ <;> rfl
  rw [hlater, hrun]
  have htext : w₁.text = w.sink.stored ++ (header used :: o.lines) := by
    rw [h.text]
    simp [Writer.text, begun, hnew.pending]
  have hlog : ((w₁.drained.storing (statementLine returnStatement)).ended used).log =
      w₁.log ++ [.ended used] := by
    simp [ended, paths, storing, drained, hdirectories]
  refine ⟨⟨h.steady.sink, h.steady.indent⟩, isNew_of_idle rfl rfl h.steady.indent rfl, ?_, ?_⟩
  · change w₁.sink.stored ++ w₁.pending.lines ++ [MacroHistory.returnLine] = _
    rw [← List.append_assoc, ← htext]
    rfl
  · intro r hr
    obtain hr | hr := List.mem_append.1 (hlog ▸ hr : r ∈ w₁.log ++ [.ended used])
    · obtain hr | hdebug := h.log r hr
      · obtain hr | hr := List.mem_append.1 hr
        · exact .inl hr
        · rw [List.mem_singleton.1 hr]
          exact .inr rfl
      · exact .inr hdebug
    · rw [List.mem_singleton.1 hr]
      exact .inr rfl

theorem run_enter_ofMacro_of_invalid (hnew : w.IsNew) {name : Value}
    (hname : Identifier.ofValue? name = none) :
    ∃ e, (BlockKind.ofMacro.enter g name).run w = (.error e, w) :=
  ⟨_, by rw [run_enter_ofMacro, run_beginMacro_of_invalid w hnew.current hname]; rfl⟩

theorem run_enter_ofMacro_of_valid (hnew : w.IsNew) {name : Value} {used : List Char}
    (hname : Identifier.ofValue? name = some used) :
    ∃ result, (BlockKind.ofMacro.enter g name).run w = (.ok result, w.begun used) :=
  ⟨_, by rw [run_enter_ofMacro, run_beginMacro_of_valid w hnew.current hname]; rfl⟩

theorem run_enter_ofDirectory_of_idle (hnew : w.IsNew) (path : Value) :
    ∃ e, (BlockKind.ofDirectory.enter g path).run w = (.error e, w) :=
  ⟨_, by
    rw [run_enter_ofDirectory, pushDirectory, run_bind, run_requireMacro_of_idle w hnew.current]
    rfl⟩

theorem rests_runStep {step : Step} (h : step.IsStructured) (hw : w.IsSteady) (hnew : w.IsNew) :
    Rests w (Outline.macroLines g step) (runStep g step w).2.2 := by
  cases h with
  | command name arguments caught =>
    have hrun : ((writeCommand g name arguments).run w).2 = w := by
      rw [writeCommand, run_bind, run_requireMacro_of_idle w hnew.current]
    rw [runStep_operation, Operation.run, run_bind_pure, hrun]
    exact .same hw hnew
  | raise message caught => exact .same hw hnew
  | block kind argument caught hinner =>
    cases kind with
    | ofDirectory =>
      obtain ⟨e, hentered⟩ := run_enter_ofDirectory_of_idle (g := g) hnew argument
      rw [snd_runStep_block_of_refused hentered]
      exact .same hw hnew
    | ofMacro =>
      cases hname : Identifier.ofValue? argument with
      | none =>
        obtain ⟨e, hentered⟩ := run_enter_ofMacro_of_invalid (g := g) hnew hname
        rw [snd_runStep_block_of_refused hentered, Outline.macroLines, hname]
        exact .same hw hnew
      | some used =>
        obtain ⟨result, hentered⟩ := run_enter_ofMacro_of_valid (g := g) hnew hname
        obtain ⟨hgrows, -⟩ := grows_runBody (g := g) _ hinner (w := w.begun used)
          ⟨hw.sink, hw.indent⟩ rfl
        rw [snd_runStep_block_of_entered hentered, Outline.macroLines, hname]
        exact rests_leaveBlock_ofMacro hnew hgrows _

/-- Of the steps that are started, each finds a new writer or one inside a macro. -/
theorem started_of_isNew {step : Step} (h : step.IsStructured) (hw : w.IsSteady) (hnew : w.IsNew) :
    ∀ p ∈ started g step w, p.1.IsStructured ∧ p.2.IsSteady ∧
      (p.2.IsNew ∨ ∃ current, p.2.current = some current) := by
  have hself : ∀ p ∈ [(step, w)], p.1.IsStructured ∧ p.2.IsSteady ∧
      (p.2.IsNew ∨ ∃ current, p.2.current = some current) :=
    List.forall_mem_singleton.2 ⟨h, hw, .inl hnew⟩
  cases h with
  | command name arguments caught => exact hself
  | raise message caught => exact hself
  | block kind argument caught hinner =>
    cases kind with
    | ofDirectory =>
      obtain ⟨e, hentered⟩ := run_enter_ofDirectory_of_idle (g := g) hnew argument
      rw [started, hentered]
      exact hself
    | ofMacro =>
      cases hname : Identifier.ofValue? argument with
      | none =>
        obtain ⟨e, hentered⟩ := run_enter_ofMacro_of_invalid (g := g) hnew hname
        rw [started, hentered]
        exact hself
      | some used =>
        obtain ⟨result, hentered⟩ := run_enter_ofMacro_of_valid (g := g) hnew hname
        obtain ⟨hall, -⟩ := startedIn_of_isStructured (g := g) _ hinner (w := w.begun used)
          ⟨hw.sink, hw.indent⟩ rfl
        rw [started, hentered]
        refine List.forall_mem_cons.2 ⟨⟨.block _ _ _ hinner, hw, .inl hnew⟩, fun p hp ↦ ?_⟩
        exact ⟨(hall p hp).1, (hall p hp).2.1, .inr ⟨used, (hall p hp).2.2⟩⟩

theorem rests_run {program : List Step} (h : ∀ step ∈ program, step.IsStructured) (hw : w.IsSteady)
    (hnew : w.IsNew) :
    Rests w (program.flatMap (Outline.macroLines g)) (run g program w).2 := by
  induction program generalizing w with
  | nil => exact .same hw hnew
  | cons step rest ih =>
    have hstep := rests_runStep (g := g) (h step List.mem_cons_self) hw hnew
    have hrest := ih (fun s hs ↦ h s (List.mem_cons_of_mem step hs)) hstep.steady hstep.isNew
    refine ⟨hrest.steady, hrest.isNew, ?_, fun r hr ↦ (hrest.log r hr).elim (hstep.log r) .inr⟩
    rw [List.flatMap_cons, ← List.append_assoc, ← hstep.stored]
    exact hrest.stored

theorem started_run {program : List Step} (h : ∀ step ∈ program, step.IsStructured)
    (hw : w.IsSteady) (hnew : w.IsNew) :
    ∀ p ∈ startedBy g program w, p.1.IsStructured ∧ p.2.IsSteady ∧
      (p.2.IsNew ∨ ∃ current, p.2.current = some current) := by
  induction program generalizing w with
  | nil => exact fun _ hp ↦ absurd hp List.not_mem_nil
  | cons step rest ih =>
    have hstep := rests_runStep (g := g) (h step List.mem_cons_self) hw hnew
    have hrest := ih (fun s hs ↦ h s (List.mem_cons_of_mem step hs)) hstep.steady hstep.isNew
    intro p hp
    obtain hp | hp := List.mem_append.1 hp
    · exact started_of_isNew (h step List.mem_cons_self) hw hnew p hp
    · exact hrest p hp

end Outside

/-! ## Whole runs -/

/-- The lines of a block, by the lines of its content and whether a command was attempted there. -/
inductive Surrounds (g : Graph) (argument : Value) (content : List (List Char)) (attempted : Bool) :
    BlockKind → List (List Char) → Prop
  | ofMacro {used : List Char} (name : Identifier.ofValue? argument = some used) :
      Surrounds g argument content attempted .ofMacro
        (header used :: content ++ [MacroHistory.returnLine])
  | ofDirectory {literal : Text × List Char} (path : pathLiteral g argument = .ok literal) :
      Surrounds g argument content attempted .ofDirectory
        (if attempted then (directoryOf literal).line :: content ++ [Outline.popLine] else [])

section Entered

variable {g : Graph} {w w₁ : Writer} {argument : Value} {body : List Step} {result : StepResult}

/-- An entered macro block adds its lines around those of its body. -/
theorem surrounds_ofMacro (hinner : ∀ step ∈ body, step.IsStructured) (hw : w.IsSteady)
    (hnew : w.IsNew) (hentered : (BlockKind.ofMacro.enter g argument).run w = (.ok result, w₁))
    (caught attempted : Bool) :
    ∃ content lines, (runBody g body w₁).2.2.text = w₁.text ++ content ∧
      Surrounds g argument content attempted .ofMacro lines ∧
      (runStep g (.block .ofMacro argument body caught) w).2.2.text = w.text ++ lines := by
  cases hname : Identifier.ofValue? argument with
  | none =>
    obtain ⟨e, hrefused⟩ := run_enter_ofMacro_of_invalid (g := g) hnew hname
    cases hentered.symm.trans hrefused
  | some used =>
    obtain ⟨_, hbegun⟩ := run_enter_ofMacro_of_valid (g := g) hnew hname
    obtain ⟨-, rfl⟩ := Prod.mk.inj (hentered.symm.trans hbegun)
    obtain ⟨hgrows, -⟩ := grows_runBody (g := g) body hinner (w := w.begun used) ⟨hw.sink, hw.indent⟩
      rfl
    have hrests := rests_runStep (g := g) (.block .ofMacro argument caught hinner) hw hnew
    rw [Outline.macroLines, hname] at hrests
    refine ⟨_, _, hgrows.text, .ofMacro hname, ?_⟩
    rw [Writer.text, hrests.isNew.pending, hrests.stored, Writer.text, hnew.pending,
      List.append_nil, List.append_nil]

/-- An entered directory block adds its transitions around the lines of its body, or nothing. -/
theorem surrounds_ofDirectory (hinner : ∀ step ∈ body, step.IsStructured) (hw : w.IsSteady)
    {current : List Char} (hcurrent : w.current = some current)
    (hentered : (BlockKind.ofDirectory.enter g argument).run w = (.ok result, w₁))
    (caught : Bool) :
    ∃ content lines, (runBody g body w₁).2.2.text = w₁.text ++ content ∧
      Surrounds g argument content ((startedIn g body w₁).any fun p ↦ p.1.attemptsCommand)
        .ofDirectory lines ∧
      (runStep g (.block .ofDirectory argument body caught) w).2.2.text = w.text ++ lines := by
  cases hpath : pathLiteral g argument with
  | error e =>
    obtain ⟨e, hrefused⟩ := run_enter_ofDirectory_of_error hcurrent hpath
    cases hentered.symm.trans hrefused
  | ok literal =>
    obtain ⟨_, hpushed⟩ := run_enter_ofDirectory_of_ok hw hcurrent hpath
    obtain ⟨-, rfl⟩ := Prod.mk.inj (hentered.symm.trans hpushed)
    obtain ⟨hgrows, -⟩ := grows_runBody (g := g) body hinner (w := w.pushed g argument)
      ⟨hw.sink, hw.indent⟩ hcurrent
    obtain ⟨-, hattempted⟩ := startedIn_of_isStructured (g := g) body hinner
      (w := w.pushed g argument) ⟨hw.sink, hw.indent⟩ hcurrent
    obtain ⟨hblock, -⟩ := grows_runStep (g := g) _ (.block .ofDirectory argument caught hinner) hw
      hcurrent
    have htext := hblock.text
    rw [Outline.ofStep, hpath] at htext
    rw [hattempted]
    exact ⟨_, _, hgrows.text, .ofDirectory hpath, htext⟩

end Entered

/-- A run of blocks, commands and raised errors writes its outline. Each step leaves the directories as it
found them, each block that is entered adds its lines around those of its body, and no macro ends inside a
directory. -/
theorem run_eq_outline (g : Graph) {sink : Sink} (hsink : sink.NeverRefuses) (program : List Step)
    (h : ∀ step ∈ program, step.IsStructured) :
    let w := Writer.new sink
    let later := (run g program w).2
    later.IsNew ∧ later.sink.stored = sink.stored ++ program.flatMap (Outline.macroLines g) ∧
      (∀ r ∈ later.log, r.level = .debug) ∧
      (∀ p ∈ startedBy g program w, (runStep g p.1 p.2).2.2.directories = p.2.directories) ∧
      ∀ kind argument body caught before result entered,
        (.block kind argument body caught, before) ∈ startedBy g program w →
        (kind.enter g argument).run before = (.ok result, entered) →
        ∃ content lines, (runBody g body entered).2.2.text = entered.text ++ content ∧
          Surrounds g argument content
            ((startedIn g body entered).any fun p ↦ p.1.attemptsCommand) kind lines ∧
          (runStep g (.block kind argument body caught) before).2.2.text = before.text ++ lines := by
  intro w later
  have hw : w.IsSteady := ⟨hsink, rfl⟩
  have hnew : w.IsNew := rfl
  have hrun : Rests w (program.flatMap (Outline.macroLines g)) later := rests_run h hw hnew
  have hstarted := started_run (g := g) h hw hnew
  refine ⟨hrun.isNew, hrun.stored, fun r hr ↦ ?_, fun p hp ↦ ?_, ?_⟩
  · exact (hrun.log r hr).resolve_left List.not_mem_nil
  · obtain ⟨hstructured, hsteady, hidle | ⟨current, hcurrent⟩⟩ := hstarted p hp
    · exact (rests_runStep hstructured hsteady hidle).isNew.directories.trans hidle.directories.symm
    · exact (grows_runStep p.1 hstructured hsteady hcurrent).1.directories
  · intro kind argument body caught before result entered hp hentered
    obtain ⟨hstructured, hsteady, hstate⟩ := hstarted _ hp
    cases hstructured with
    | block _ _ _ hinner =>
    cases kind with
    | ofMacro =>
      obtain hidle | ⟨current, hcurrent⟩ := hstate
      · exact surrounds_ofMacro hinner hsteady hidle hentered caught _
      · obtain ⟨e, hrefused⟩ := run_enter_ofMacro_of_writing (g := g) hcurrent argument
        cases hentered.symm.trans hrefused
    | ofDirectory =>
      obtain hidle | ⟨current, hcurrent⟩ := hstate
      · obtain ⟨e, hrefused⟩ := run_enter_ofDirectory_of_idle (g := g) hidle argument
        cases hentered.symm.trans hrefused
      · exact surrounds_ofDirectory hinner hsteady hcurrent hentered caught

/-- A directory that an error leaves empty, one in which a command is attempted in vain, and a directory
outside of any macro. -/
def unwoundDirectories : List Step :=
  [.block .ofDirectory (.text "a" false) [] false,
    .block .ofMacro (.text "gen" false)
      [.block .ofDirectory (.text "a" false)
        [.block .ofDirectory (.text "b" false) [.operation (.raise "failed") false] false,
          .operation (.writeCommand (.text "x" false) []) false] true,
        .block .ofDirectory (.text "a" false)
          [.block .ofDirectory (.text "b" false)
            [.operation (.writeCommand (.text "x" false) [.object ['T']]) false] false] true,
        .operation (.writeCommand (.text "y" false) [.int 1 false]) false,
        .block .ofMacro (.text "inner" false) [] false] false]

theorem isStructured_of_mem_unwoundDirectories : ∀ step ∈ unwoundDirectories, step.IsStructured := by
  refine List.forall_mem_cons.2 ⟨.block _ _ _ (List.forall_mem_nil _), ?_⟩
  refine List.forall_mem_singleton.2 (.block _ _ _ ?_)
  refine List.forall_mem_cons.2 ⟨.block _ _ _ ?_, List.forall_mem_cons.2 ⟨.block _ _ _ ?_, ?_⟩⟩
  · refine List.forall_mem_cons.2 ⟨.block _ _ _ ?_, List.forall_mem_singleton.2 (.command _ _ _)⟩
    exact List.forall_mem_singleton.2 (.raise _ _)
  · refine List.forall_mem_singleton.2 (.block _ _ _ ?_)
    exact List.forall_mem_singleton.2 (.command _ _ _)
  · refine List.forall_mem_cons.2 ⟨.command _ _ _, ?_⟩
    exact List.forall_mem_singleton.2 (.block _ _ _ (List.forall_mem_nil _))

/-- Every flush is refused. -/
def unflushed : Sink := .empty (fun _ ↦ false) (fun _ ↦ true)

theorem run_eq_outline_unwoundDirectories :
    unflushed.NeverRefuses ∧ (∀ step ∈ unwoundDirectories, step.IsStructured) ∧
      (run .empty unwoundDirectories (Writer.new unflushed)).2.sink.stored =
        ["def gen(ctx):\n".toList, "    ctx = ctx.push_directory(ctx, \"a\")\n".toList,
          "    ctx = ctx.push_directory(ctx, \"b\")\n".toList,
          "    ctx = ctx.pop_directory(ctx)\n".toList, "    ctx = ctx.pop_directory(ctx)\n".toList,
          "    ctx.y(ctx, 1)\n".toList, "    return ctx\n".toList] := by
  have hsink : unflushed.NeverRefuses := fun _ ↦ rfl
  refine ⟨hsink, isStructured_of_mem_unwoundDirectories, ?_⟩
  obtain ⟨-, hstored, -⟩ := run_eq_outline .empty hsink unwoundDirectories
    isStructured_of_mem_unwoundDirectories
  rw [hstored]
  decide +kernel

end Script

end StarlarkMacro
