import Mathlib.Logic.Relation
import StarlarkMacro.Proofs.Script.Started
import StarlarkMacro.Proofs.Writer.Failing

/-!
# How blocks are left

A failure of a body leaves the blocks around it one by one, and the exit of each runs before the failure
goes on, in whatever state the body left. On a sink that takes everything the exit of a macro block goes
well, and so does the exit of a directory block unless its body, without failing, has left nothing to pop.
So no exit puts an error of its own in the place of one that is on its way.
-/

namespace StarlarkMacro

open Writer

namespace Script

/-! ## The steps of a body -/

/-- The steps of a body that are started, without those inside its blocks. -/
def bodySteps (g : Graph) : List Step → Writer → List (Step × Writer)
  | [], _ => []
  | step :: rest, w =>
    (step, w) ::
      if endsBody (runStep g step w).2.1 step.caught then []
      else bodySteps g rest (runStep g step w).2.2

/-- The first step is one of the body that the second enters, a block. -/
inductive StandsIn (g : Graph) : Step × Writer → Step × Writer → Prop
  | intro {kind : BlockKind} {argument : Value} {body : List Step} {w w₁ : Writer}
      {result : StepResult} {inner : Step × Writer}
      (hentered : (kind.enter g argument).run w = (.ok result, w₁))
      (hinner : inner ∈ bodySteps g body w₁) (caught : Bool) :
      StandsIn g inner (.block kind argument body caught, w)

/-- Nothing between the first step and the second, a block around it, catches what the first fails for. -/
def Escapes (g : Graph) : Step × Writer → Step × Writer → Prop :=
  Relation.ReflTransGen fun inner outer ↦ inner.1.caught = false ∧ StandsIn g inner outer

section Steps

variable {g : Graph} {P : Writer → Prop}

theorem startedIn_eq_flatMap (body : List Step) (w : Writer) :
    startedIn g body w = (bodySteps g body w).flatMap fun p ↦ started g p.1 p.2 := by
  induction body generalizing w with
  | nil => rfl
  | cons step rest ih =>
    rw [startedIn, bodySteps, List.flatMap_cons]
    split
    · rfl
    · rw [ih]

mutual

theorem Kept.started (h : Kept g P) :
    ∀ (step : Step) {w : Writer}, P w → ∀ p ∈ started g step w, P p.2
  | .operation op caught, w, hw => by
    rw [Script.started]
    exact List.forall_mem_singleton.2 hw
  | .block kind argument body caught, w, hw => by
    have henter := h.enter kind argument hw
    rw [Script.started]
    rcases hentered : (kind.enter g argument).run w with ⟨e | result, w₁⟩
    · exact List.forall_mem_singleton.2 hw
    · rw [hentered] at henter
      have hbody := h.startedIn body henter
      exact List.forall_mem_cons.2 ⟨hw, hbody⟩

theorem Kept.startedIn (h : Kept g P) :
    ∀ (body : List Step) {w : Writer}, P w → ∀ p ∈ startedIn g body w, P p.2
  | [], _, _ => by simp [Script.startedIn]
  | step :: rest, w, hw => by
    have hstep := h.started step hw
    have hrest := h.startedIn rest (h.runStep step hw)
    rw [Script.startedIn]
    intro p hp
    cases List.mem_append.1 hp with
    | inl hp => exact hstep p hp
    | inr hp =>
      split at hp
      · cases hp
      · exact hrest p hp

end

/-- Every step of a script finds a state with what the operations keep. -/
theorem Kept.startedBy (h : Kept g P) (steps : List Step) {w : Writer} (hw : P w) :
    ∀ p ∈ startedBy g steps w, P p.2 := by
  induction steps generalizing w with
  | nil => simp [Script.startedBy]
  | cons step rest ih =>
    intro p hp
    cases List.mem_append.1 hp with
    | inl hp => exact h.started step hw p hp
    | inr hp => exact ih (h.runStep step hw) p hp

theorem mem_started_self (step : Step) (w : Writer) : (step, w) ∈ started g step w := by
  cases step <;> simp [started]

/-- The steps of the body of a block find states with what the operations keep. -/
theorem Kept.of_standsIn (h : Kept g P) {inner outer : Step × Writer} (hin : StandsIn g inner outer)
    (houter : P outer.2) : P inner.2 := by
  cases hin with
  | @intro kind argument body w w₁ result inner hentered hinner caught =>
    have hw₁ : P w₁ := by
      have henter := h.enter kind argument houter
      rwa [hentered] at henter
    apply h.startedIn body hw₁
    rw [startedIn_eq_flatMap]
    exact List.mem_flatMap.2 ⟨inner, hinner, mem_started_self inner.1 inner.2⟩

/-- What a step of a body fails for without being caught, the body fails for. -/
theorem snd_runBody_of_mem {body : List Step} {w : Writer} {p : Step × Writer} {e : Failure}
    (hp : p ∈ bodySteps g body w) (hcaught : p.1.caught = false)
    (hfails : (runStep g p.1 p.2).2.1 = some e) : (runBody g body w).2 = (runStep g p.1 p.2).2 := by
  induction body generalizing w with
  | nil => cases hp
  | cons step rest ih =>
    rw [snd_runBody_cons]
    cases List.mem_cons.1 hp with
    | inl hp =>
      subst hp
      have hends : endsBody (runStep g step w).2.1 step.caught = true := by
        rw [hfails, hcaught]
        rfl
      rw [if_pos hends]
    | inr hp =>
      split at hp
      · cases hp
      · rw [if_neg ‹_›]
        exact ih hp

end Steps

/-! ## The exits -/

section Exits

variable {g : Graph} {w : Writer}

/-- After a failure a directory block with nothing to pop is left as it is. -/
theorem run_leave_ofDirectory_of_failed (hnothing : w.current = none ∨ w.directories = []) :
    (BlockKind.ofDirectory.leave g true).run w = (.ok (), w) := by
  have hidle : (w.isWriting && w.depth != 0) = false := by
    cases hnothing with
    | inl hcurrent => simp [isWriting, hcurrent]
    | inr hdirectories => simp [depth, hdirectories]
  simp only [BlockKind.leave, run_bind, run_get, hidle, Bool.not_false, Bool.and_self, if_true]
  rfl

/-- After a body that did not fail a directory block pops in any state. -/
theorem run_leave_ofDirectory_of_ended : (BlockKind.ofDirectory.leave g false).run w =
    (((popDirectory g).run w).1.map fun _ ↦ (), ((popDirectory g).run w).2) := by
  simp only [BlockKind.leave, run_bind, run_get, Bool.false_and, Bool.false_eq_true, if_false]
  rcases (popDirectory g).run w with ⟨e | path, w'⟩ <;> rfl

/-- A macro block is left with the outcome of its body, and no macro is being written behind it. -/
theorem exists_leaveBlock_ofMacro (hw : w.IsReliable g) (failure : Option Failure) :
    ∃ later : Writer, later.IsNew ∧ leaveBlock g .ofMacro failure w = (failure, false, later) := by
  obtain ⟨l, hagrees⟩ := hw.agrees
  cases hcurrent : w.current with
  | none =>
    have hrun : (BlockKind.ofMacro.leave g failure.isSome).run w = (.ok (), w) := by
      have hidle : w.isWriting = false := by rw [isWriting, hcurrent, Option.isSome_none]
      simp only [BlockKind.leave, run_bind, run_get, hidle, Bool.false_eq_true, if_false]
      rfl
    exact ⟨w, hagrees.isNew hcurrent, leaveBlock_of_ok hrun⟩
  | some current =>
    have hdone : ∀ n, ((w.drained.storing (statementLine returnStatement)).ended
        current).sink.refusesFlush n = false := hw.sink.flush
    have hrun := run_endMacro_of_neverRefuses w hcurrent hw.sink.write hw.indent
    rw [run_flushSink, hdone, if_neg Bool.false_ne_true,
      ← run_leave_ofMacro hcurrent failure.isSome] at hrun
    have hnew := isNew_of_idle (w := ((BlockKind.ofMacro.leave g failure.isSome).run w).2)
    rw [hrun] at hnew
    exact ⟨_, hnew rfl rfl hw.indent rfl, leaveBlock_of_ok hrun⟩

/-- A pop fails without a macro and without a directory, and each has its own error. -/
theorem fault_popDirectory_iff {e : Failure} : Operation.Fault g w .popDirectory e ↔
    w.current = none ∧ e = .contract (.noActiveMacro "pop_directory") ∨
      w.current ≠ none ∧ w.directories = [] ∧ e = .contract .emptyDirectoryStack := by
  constructor
  · intro h
    cases h with
    | noActiveMacro hcurrent hop =>
      cases hop
      exact .inl ⟨hcurrent, rfl⟩
    | emptyDirectoryStack hcurrent hempty =>
      exact .inr ⟨by rw [hcurrent]; exact Option.some_ne_none _, hempty, rfl⟩
  · rintro (⟨hcurrent, rfl⟩ | ⟨hcurrent, hempty, rfl⟩)
    · exact .noActiveMacro hcurrent rfl
    · obtain ⟨current, hcurrent⟩ := Option.ne_none_iff_exists'.1 hcurrent
      exact .emptyDirectoryStack hcurrent hempty

theorem exists_fault_popDirectory_iff : (∃ e, Operation.Fault g w .popDirectory e) ↔
    w.current = none ∨ w.directories = [] := by
  simp only [fault_popDirectory_iff]
  constructor
  · rintro ⟨e, ⟨hcurrent, -⟩ | ⟨-, hempty, -⟩⟩
    · exact .inl hcurrent
    · exact .inr hempty
  · intro hnothing
    by_cases hcurrent : w.current = none
    · exact ⟨_, .inl ⟨hcurrent, rfl⟩⟩
    · exact ⟨_, .inr ⟨hcurrent, hnothing.resolve_left hcurrent, rfl⟩⟩

theorem run_popDirectory_of_fault {e : Failure} (h : Operation.Fault g w .popDirectory e) :
    (popDirectory g).run w = (.error e, w) := by
  cases h with
  | noActiveMacro hcurrent hop =>
    cases hop
    rw [popDirectory, run_bind, run_requireMacro_of_idle w hcurrent]
  | emptyDirectoryStack hcurrent hempty => exact run_popDirectory_of_empty w hcurrent hempty

/-- A directory block is left with the outcome of its body, unless that is success and the pop fails. -/
theorem leaveBlock_ofDirectory_cases (hw : w.IsReliable g) (failure : Option Failure) :
    (∃ later, leaveBlock g .ofDirectory failure w = (failure, false, later)) ∨
      failure = none ∧ ∃ e, Operation.Fault g w .popDirectory e ∧
        leaveBlock g .ofDirectory none w = (some e, true, w) := by
  obtain ⟨e, hfault⟩ | ⟨result, later, hrun⟩ :=
    Operation.exists_fault_or_ok hw.sound hw.sink .popDirectory
  · cases failure with
    | some cause =>
      have hnothing := exists_fault_popDirectory_iff.1 ⟨e, hfault⟩
      exact .inl ⟨w, leaveBlock_of_ok (run_leave_ofDirectory_of_failed hnothing)⟩
    | none =>
      refine .inr ⟨rfl, e, hfault, ?_⟩
      rw [leaveBlock, Option.isSome_none, run_leave_ofDirectory_of_ended,
        run_popDirectory_of_fault hfault]
      rfl
  · have hnot : ¬ ∃ e, Operation.Fault g w .popDirectory e := by
      rintro ⟨e, hfault⟩
      cases (hfault.run_eq hw.sink.write).symm.trans hrun
    rw [exists_fault_popDirectory_iff, not_or] at hnot
    obtain ⟨current, hcurrent⟩ := Option.ne_none_iff_exists'.1 hnot.1
    rw [Operation.run, run_bind_pure] at hrun
    refine .inl ⟨later, leaveBlock_of_ok ?_⟩
    rw [run_leave_ofDirectory hcurrent hnot.2]
    rcases hpop : (popDirectory g).run w with ⟨e | path, w'⟩
    · rw [hpop] at hrun
      cases hrun
    · rw [hpop] at hrun
      cases hrun
      rfl

end Exits

/-! ## Failures on their way -/

section Failures

variable {g : Graph}

/-- What operations keep on a sink that takes everything. -/
theorem kept_isReliable (g : Graph) : Kept g (Writer.IsReliable g) :=
  fun op _ hw ↦ hw.after_operation op

/-- A block that is entered and whose body fails, fails for the same. -/
theorem fst_snd_runStep_of_failed {kind : BlockKind} {argument : Value} {body : List Step}
    {w w₁ : Writer} {result : StepResult} (hw : w.IsReliable g)
    (hentered : (kind.enter g argument).run w = (.ok result, w₁)) {e : Failure}
    (hbody : (runBody g body w₁).2.1 = some e) (caught : Bool) :
    (runStep g (.block kind argument body caught) w).2.1 = some e := by
  have hw₁ : w₁.IsReliable g := by
    have henter := (kept_isReliable g).enter kind argument hw
    rwa [hentered] at henter
  have hleft := (kept_isReliable g).runBody body hw₁
  rw [snd_runStep_block_of_entered hentered, hbody]
  cases kind with
  | ofMacro =>
    obtain ⟨later, -, hleave⟩ := exists_leaveBlock_ofMacro hleft (some e)
    rw [hleave]
  | ofDirectory =>
    obtain ⟨later, hleave⟩ | ⟨hnone, -⟩ := leaveBlock_ofDirectory_cases hleft (some e)
    · rw [hleave]
    · cases hnone

theorem fst_snd_runStep_of_escapes {inner outer : Step × Writer} (h : Escapes g inner outer)
    (houter : outer.2.IsReliable g) {e : Failure}
    (hfails : (runStep g inner.1 inner.2).2.1 = some e) :
    (runStep g outer.1 outer.2).2.1 = some e := by
  induction h with
  | refl => exact hfails
  | tail _ hnext ih =>
    obtain ⟨hcaught, hin⟩ := hnext
    have hmiddle := ih ((kept_isReliable g).of_standsIn hin houter)
    cases hin with
    | intro hentered hinner caught =>
      apply fst_snd_runStep_of_failed houter hentered
      rw [snd_runBody_of_mem hinner hcaught hmiddle]
      exact hmiddle

/-- How the blocks of a script are left, wherever they stand in it and whatever their bodies do. -/
structure Unwinds (g : Graph) (steps : List Step) (w₀ : Writer) : Prop where
  ofMacro : ∀ (name : Value) (body : List Step) (caught : Bool) (w w₁ left : Writer)
    (result : StepResult) (failure : Option Failure),
    (Step.block .ofMacro name body caught, w) ∈ startedBy g steps w₀ →
    (BlockKind.ofMacro.enter g name).run w = (.ok result, w₁) →
    (runBody g body w₁).2 = (failure, left) →
    ∃ later : Writer, later.current = none ∧ later.directories = [] ∧
      leaveBlock g .ofMacro failure left = (failure, false, later) ∧
      (runStep g (.block .ofMacro name body caught) w).2 = (failure, later)
  /-- The exit of a directory block either lets the outcome of the body through, or the body ended well and
  left nothing to pop. -/
  ofDirectory : ∀ (path : Value) (body : List Step) (caught : Bool) (w w₁ left : Writer)
    (result : StepResult) (failure : Option Failure),
    (Step.block .ofDirectory path body caught, w) ∈ startedBy g steps w₀ →
    (BlockKind.ofDirectory.enter g path).run w = (.ok result, w₁) →
    (runBody g body w₁).2 = (failure, left) →
    (∃ later, leaveBlock g .ofDirectory failure left = (failure, false, later) ∧
      (runStep g (.block .ofDirectory path body caught) w).2 = (failure, later)) ∨
    failure = none ∧ ∃ e,
      (left.current = none ∧ e = .contract (.noActiveMacro "pop_directory") ∨
        left.current ≠ none ∧ left.directories = [] ∧ e = .contract .emptyDirectoryStack) ∧
      leaveBlock g .ofDirectory none left = (some e, true, left) ∧
      (runStep g (.block .ofDirectory path body caught) w).2 = (some e, left)
  /-- What a step fails for, every block around it fails for, up to the one that is caught. -/
  escapes : ∀ (inner outer : Step × Writer) (e : Failure), outer ∈ startedBy g steps w₀ →
    Escapes g inner outer → (runStep g inner.1 inner.2).2.1 = some e →
    (runStep g outer.1 outer.2).2.1 = some e

end Failures

/-- Exits of blocks hide no failure, on a sink that takes everything. -/
theorem unwinds_startedBy (g : Graph) (steps : List Step) {sink : Sink} (hsink : sink.IsWilling) :
    Unwinds g steps (Writer.new sink) := by
  have hreliable := (kept_isReliable g).startedBy steps (.new g hsink)
  have hleft : ∀ (kind : BlockKind) (argument : Value) (body : List Step) (w w₁ left : Writer)
      (result : StepResult) (failure : Option Failure), w.IsReliable g →
      (kind.enter g argument).run w = (.ok result, w₁) →
      (runBody g body w₁).2 = (failure, left) → left.IsReliable g := by
    intro kind argument body w w₁ left result failure hw hentered hbody
    have henter := (kept_isReliable g).enter kind argument hw
    rw [hentered] at henter
    have hkept := (kept_isReliable g).runBody body henter
    rwa [hbody] at hkept
  constructor
  · intro name body caught w w₁ left result failure hstarted hentered hbody
    have hw := hleft _ _ _ _ _ _ _ _ (hreliable _ hstarted) hentered hbody
    obtain ⟨later, hnew, hleave⟩ := exists_leaveBlock_ofMacro hw failure
    refine ⟨later, hnew.current, hnew.directories, hleave, ?_⟩
    rw [snd_runStep_block_of_entered hentered, hbody, hleave]
  · intro path body caught w w₁ left result failure hstarted hentered hbody
    have hw := hleft _ _ _ _ _ _ _ _ (hreliable _ hstarted) hentered hbody
    obtain ⟨later, hleave⟩ | ⟨rfl, e, hfault, hleave⟩ := leaveBlock_ofDirectory_cases hw failure
    · refine .inl ⟨later, hleave, ?_⟩
      rw [snd_runStep_block_of_entered hentered, hbody, hleave]
    · refine .inr ⟨rfl, e, fault_popDirectory_iff.1 hfault, hleave, ?_⟩
      rw [snd_runStep_block_of_entered hentered, hbody, hleave]
  · intro inner outer e hstarted hescapes hfails
    exact fst_snd_runStep_of_escapes hescapes (hreliable _ hstarted) hfails

/-- The body of a macro block that ends the macro and begins another, whose directory block it fails out
of with all directories closed. -/
def reopening : Step :=
  .block .ofMacro (.text "gen" false)
    [.operation .endMacro false,
      .operation (.beginMacro (.text "other" false)) false,
      .operation (.pushDirectory (.text "a" false)) false,
      .block .ofDirectory (.text "b" false)
        [.operation .popDirectory false, .operation .popDirectory false,
          .operation (.raise "stop") false] false] false

theorem unwinds_startedBy_reopening : Sink.willing.IsWilling ∧
    Unwinds .empty [reopening] (Writer.new .willing) ∧
    (runStep .empty reopening (Writer.new .willing)).2.1.map (Failure.message .empty) =
      some "stop" := by
  have hwilling : Sink.willing.IsWilling := ⟨fun _ ↦ rfl, fun _ ↦ rfl⟩
  exact ⟨hwilling, unwinds_startedBy .empty _ hwilling, by decide +kernel⟩

end Script

end StarlarkMacro
