import StarlarkMacro.Proofs.Writer.Operation

/-!
# What a script keeps

A block enters and leaves by operations, so what every operation keeps is kept by every script, however its
steps fail. Every operation on every sink keeps the indentation, and keeps no path but such as have a literal:
a push that is not refused has encoded its path, and the literal of a path never changes. So no pop is refused
for the path that it encodes again.
-/

namespace StarlarkMacro

namespace Script

/-- Every operation keeps a property of the state, whatever becomes of the operation. -/
def Kept (g : Graph) (P : Writer → Prop) : Prop :=
  ∀ (op : Operation) (w : Writer), P w → P ((op.run g).run w).2

variable {g : Graph} {P : Writer → Prop}

theorem Kept.enter (h : Kept g P) (kind : BlockKind) (argument : Value) {w : Writer} (hw : P w) :
    P ((kind.enter g argument).run w).2 := by
  cases kind with
  | ofMacro =>
    have hop := h (.beginMacro argument) w hw
    simp only [Operation.run, Writer.run_bind_pure] at hop
    simpa only [BlockKind.enter, Writer.run_bind_pure] using hop
  | ofDirectory =>
    have hop := h (.pushDirectory argument) w hw
    simp only [Operation.run, Writer.run_bind_pure] at hop
    simpa only [BlockKind.enter, Writer.run_bind_pure] using hop

/-- On its way out a block calls one operation or none. -/
theorem Kept.leave (h : Kept g P) (kind : BlockKind) (failed : Bool) {w : Writer} (hw : P w) :
    P ((kind.leave g failed).run w).2 := by
  cases kind with
  | ofMacro =>
    have hop := h .endMacro w hw
    simp only [Operation.run, Writer.run_bind_pure] at hop
    simp only [BlockKind.leave, Writer.run_bind, Writer.run_get]
    split
    · exact hop
    · exact hw
  | ofDirectory =>
    have hop := h .popDirectory w hw
    simp only [Operation.run, Writer.run_bind_pure] at hop
    simp only [BlockKind.leave, Writer.run_bind, Writer.run_get]
    split
    · exact hw
    · simpa only [Writer.run_bind_pure] using hop

mutual

/-- By recursion on the step: a block enters, runs its body and leaves, and every part keeps the property.
-/
theorem Kept.runStep (h : Kept g P) : ∀ (step : Step) {w : Writer}, P w → P (runStep g step w).2.2
  | .operation op _, w, hw => h op w hw
  | .block kind argument body _, w, hw => by
    have henter := h.enter kind argument hw
    rcases hentered : (kind.enter g argument).run w with ⟨entered, w₁⟩
    rw [hentered] at henter
    simp only [Script.runStep, hentered]
    cases entered with
    | error e => exact henter
    | ok result =>
      have hbody := h.runBody body henter
      have hleave := h.leave kind (Script.runBody g body w₁).2.1.isSome hbody
      simp only [leaveBlock]
      split <;> simp_all

theorem Kept.runBody (h : Kept g P) :
    ∀ (body : List Step) {w : Writer}, P w → P (runBody g body w).2.2
  | [], _, hw => hw
  | step :: rest, w, hw => by
    have hstep := h.runStep step hw
    simp only [Script.runBody]
    split
    · exact hstep
    · exact h.runBody rest hstep

end

/-- What every operation keeps, every script keeps. -/
theorem Kept.run (h : Kept g P) (steps : List Step) {w : Writer} (hw : P w) :
    P (run g steps w).2 := by
  induction steps generalizing w with
  | nil => exact hw
  | cons step rest ih => exact ih (h.runStep step hw)

end Script

namespace Writer

/-- Lines are indented as usual, and every path that is kept has a literal. -/
structure IsSound (g : Graph) (w : Writer) : Prop where
  indent : w.pending.indent = StatementBuffer.standardIndent
  encodes : ∀ path ∈ w.directories, ∃ literal, pathLiteral g path = .ok literal

namespace IsSound

variable {g : Graph} {w w' : Writer}

theorem new (g : Graph) (sink : Sink) : (Writer.new sink).IsSound g :=
  ⟨rfl, List.forall_mem_nil _⟩

/-- Directories may be closed and anything else may happen to a sound writer but to its indentation. -/
theorem mono (h : w.IsSound g) (hindent : w'.pending.indent = w.pending.indent)
    (hdirectories : w'.directories ⊆ w.directories) : w'.IsSound g :=
  ⟨hindent.trans h.indent, fun path hpath ↦ h.encodes path (hdirectories hpath)⟩

theorem congr (h : w.IsSound g) (hindent : w'.pending.indent = w.pending.indent)
    (hdirectories : w'.directories = w.directories) : w'.IsSound g :=
  h.mono hindent (hdirectories ▸ List.Subset.refl _)

/-- The path of a push that was not refused is one more with a literal. -/
theorem pushed (h : w.IsSound g) {path : Value} {literal : Text × List Char}
    (hpath : pathLiteral g path = .ok literal) : (w.pushed g path).IsSound g :=
  ⟨h.indent, List.forall_mem_append.2 ⟨h.encodes, List.forall_mem_singleton.2 ⟨literal, hpath⟩⟩⟩

/-- What stays on the stack was sound before. -/
theorem left (h : w.IsSound g) : w.left.IsSound g := h.mono rfl (List.dropLast_subset _)

/-- The path that is kept last opens the innermost directory. -/
theorem exists_innermost (h : w.IsSound g) {path : Value} (hlast : w.directories.getLast? = some path) :
    ∃ d, w.Innermost g d := by
  obtain ⟨literal, hpath⟩ := h.encodes path (List.mem_of_getLast? hlast)
  exact ⟨directoryOf literal, path, literal, hlast, hpath, rfl⟩

/-- Of a sound writer the innermost directory is the last one; no path is kept that could not be encoded. -/
theorem innermost_iff (h : w.IsSound g) {d : Directory} :
    w.Innermost g d ↔ (w.opened g).getLast? = some d := by
  refine ⟨Innermost.getLast?_opened, fun hd ↦ ?_⟩
  rw [opened, List.getLast?_map, Option.map_eq_some_iff] at hd
  obtain ⟨path, hlast, rfl⟩ := hd
  obtain ⟨literal, hpath⟩ := h.encodes path (List.mem_of_getLast? hlast)
  exact ⟨path, literal, hlast, hpath, directoryAt_of_ok hpath⟩

end IsSound

/-- What runs keeps a writer sound. -/
def KeepsSound (g : Graph) {α : Type} (x : WriterM α) : Prop :=
  ∀ w : Writer, w.IsSound g → (x.run w).2.IsSound g

section KeepsSound

variable {g : Graph}

/-- What fails keeps the writer sound as well, since the second part is not reached then. -/
theorem KeepsSound.bind {α β : Type} {x : WriterM α} {f : α → WriterM β} (hx : KeepsSound g x)
    (hf : ∀ a, KeepsSound g (f a)) : KeepsSound g (x >>= f) := by
  intro w hw
  have hfirst := hx w hw
  rcases hrun : x.run w with ⟨e | a, w₁⟩
  all_goals rw [hrun] at hfirst
  · rw [run_bind, hrun]
    exact hfirst
  · rw [run_bind, hrun]
    exact hf a w₁ hfirst

theorem keepsSound_pure {α : Type} (a : α) : KeepsSound g (pure a : WriterM α) := fun _ hw ↦ hw

theorem keepsSound_throw {α : Type} (e : Failure) : KeepsSound g (throw e : WriterM α) :=
  fun _ hw ↦ hw

theorem keepsSound_requireMacro (operation : String) : KeepsSound g (requireMacro operation) := by
  intro w hw
  cases h : w.current with
  | none => rwa [run_requireMacro_of_idle w h]
  | some current => rwa [run_requireMacro_of_writing w h]

theorem keepsSound_orRefuse {α : Type} (x : Except EncodingError α) : KeepsSound g (orRefuse x) := by
  cases x
  · exact keepsSound_throw _
  · exact keepsSound_pure _

theorem keepsSound_identifier (v : Value) : KeepsSound g (identifier v) := by
  unfold identifier
  split
  · exact keepsSound_pure _
  · exact keepsSound_throw _

theorem keepsSound_writeStatement (statement : List Char) :
    KeepsSound g (writeStatement statement) := by
  intro w hw
  rw [run_writeStatement]
  split <;> exact hw.congr rfl rfl

/-- Lines are stored and refused, but neither paths nor the indentation change. -/
theorem keepsSound_writePending : KeepsSound g writePending := by
  intro w hw
  obtain hrun | ⟨before, line, after, -, -, hrun⟩ := run_writePending w
  all_goals
    rw [hrun]
    exact hw.congr rfl rfl

theorem keepsSound_beginMacro (name : Value) : KeepsSound g (beginMacro name) := by
  intro w hw
  cases hcurrent : w.current with
  | some current => rwa [run_beginMacro_of_writing w hcurrent]
  | none =>
    cases hname : Identifier.ofValue? name with
    | none => rwa [run_beginMacro_of_invalid w hcurrent hname]
    | some sanitized =>
      rw [run_beginMacro_of_valid w hcurrent hname]
      exact hw.congr rfl rfl

/-- A path is kept only behind its literal. -/
theorem keepsSound_pushDirectory (path : Value) : KeepsSound g (pushDirectory g path) := by
  intro w hw
  cases hcurrent : w.current with
  | none => rwa [pushDirectory, run_bind, run_requireMacro_of_idle w hcurrent]
  | some current =>
    cases hpath : pathLiteral g path with
    | error e => rwa [run_pushDirectory_of_error w hcurrent hpath]
    | ok literal =>
      rw [run_pushDirectory_of_ok w hcurrent hw.indent hpath]
      exact hw.pushed hpath

/-- A pop only takes a path away, also where it is refused behind that. -/
theorem keepsSound_popDirectory : KeepsSound g (popDirectory g) := by
  intro w hw
  cases hcurrent : w.current with
  | none => rwa [popDirectory, run_bind, run_requireMacro_of_idle w hcurrent]
  | some current =>
    cases hlast : w.directories.getLast? with
    | none => rwa [run_popDirectory_of_empty w hcurrent (List.getLast?_eq_none_iff.1 hlast)]
    | some path =>
      obtain ⟨d, hd⟩ := hw.exists_innermost hlast
      by_cases hwaits : w.pending.lines.getLast? = some d.line
      · rw [run_popDirectory_of_waiting w hcurrent hw.indent hd hwaits]
        exact hw.mono rfl (List.dropLast_subset _)
      · rw [run_popDirectory_of_not_waiting w hcurrent hw.indent hd hwaits]
        exact (keepsSound_writePending.bind fun _ ↦ (keepsSound_writeStatement _).bind fun _ ↦
          keepsSound_pure _) w.left hw.left

theorem keepsSound_endMacro : KeepsSound g endMacro := by
  intro w hw
  cases hcurrent : w.current with
  | none => rwa [endMacro, run_bind, run_requireMacro_of_idle w hcurrent]
  | some current =>
    have hlines := (keepsSound_writePending.bind fun _ ↦ keepsSound_writeStatement
      returnStatement) w hw
    rw [run_endMacro w hcurrent]
    rcases hrun : (do writePending; writeStatement returnStatement : WriterM Unit).run w with
      ⟨e | ⟨⟩, w₁⟩
    all_goals rw [hrun] at hlines
    · exact hlines
    · simp only [run_flushSink]
      exact hlines.mono rfl (List.nil_subset _)

theorem keepsSound_writeCommand (name : Value) (arguments : List Value) :
    KeepsSound g (writeCommand g name arguments) :=
  (keepsSound_requireMacro _).bind fun _ ↦ (keepsSound_identifier _).bind fun _ ↦
    keepsSound_writePending.bind fun _ ↦ (keepsSound_orRefuse _).bind fun _ ↦
      keepsSound_writeStatement _

end KeepsSound

end Writer

namespace Operation

theorem keepsSound_run (g : Graph) (op : Operation) : Writer.KeepsSound g (op.run g) := by
  cases op with
  | beginMacro name => exact (Writer.keepsSound_beginMacro name).bind fun _ ↦ Writer.keepsSound_pure _
  | endMacro => exact Writer.keepsSound_endMacro.bind fun _ ↦ Writer.keepsSound_pure _
  | pushDirectory path =>
    exact (Writer.keepsSound_pushDirectory path).bind fun _ ↦ Writer.keepsSound_pure _
  | popDirectory => exact Writer.keepsSound_popDirectory.bind fun _ ↦ Writer.keepsSound_pure _
  | writeCommand name arguments =>
    exact (Writer.keepsSound_writeCommand name arguments).bind fun _ ↦ Writer.keepsSound_pure _
  | raise message => exact Writer.keepsSound_throw _

end Operation

/-- Every state that a script reaches, on any sink, is sound. -/
theorem Script.isSound_run (g : Graph) (steps : List Step) (sink : Sink) :
    (Script.run g steps (Writer.new sink)).2.IsSound g := by
  refine Kept.run ?_ steps (.new g sink)
  exact fun op w hw ↦ op.keepsSound_run g w hw

end StarlarkMacro
