import StarlarkMacro.Proofs.Writer.Operation

/-!
# The steps of a run

While a script runs, steps are started, and each finds the writer in a state of its own. A step of a body is
started only if nothing before it in the body has failed without being caught, and the body of a block only
if the block was entered.
-/

namespace StarlarkMacro.Script

open Writer

/-- Whether a step ends the body it stands in. -/
def endsBody (failure : Option Failure) (caught : Bool) : Bool := failure.isSome && !caught

mutual

/-- The steps that are started when a step is run, that step first, each with the state it finds. -/
def started (g : Graph) : Step → Writer → List (Step × Writer)
  | .operation op caught, w => [(.operation op caught, w)]
  | .block kind argument body caught, w =>
    (.block kind argument body caught, w) ::
      match (kind.enter g argument).run w with
      | (.error _, _) => []
      | (.ok _, w₁) => startedIn g body w₁

/-- The same for the steps of a body. -/
def startedIn (g : Graph) : List Step → Writer → List (Step × Writer)
  | [], _ => []
  | step :: rest, w =>
    started g step w ++
      if endsBody (runStep g step w).2.1 step.caught then []
      else startedIn g rest (runStep g step w).2.2

end

/-- The steps that are started when a script is run, in which every failure is only recorded. -/
def startedBy (g : Graph) : List Step → Writer → List (Step × Writer)
  | [], _ => []
  | step :: rest, w => started g step w ++ startedBy g rest (runStep g step w).2.2

/-! ## How a step goes -/

section Equations

variable {g : Graph} {w : Writer}

theorem snd_runBody_cons (step : Step) (rest : List Step) :
    (runBody g (step :: rest) w).2 =
      if endsBody (runStep g step w).2.1 step.caught then (runStep g step w).2
      else (runBody g rest (runStep g step w).2.2).2 := by
  rw [runBody]
  rcases runStep g step w with ⟨records, _ | e, w₁⟩
  · rfl
  · cases step.caught <;> rfl

variable {kind : BlockKind} {argument : Value}

/-- A block that is not entered ends at once. -/
theorem snd_runStep_block_of_refused {e : Failure} {w₁ : Writer}
    (hentered : (kind.enter g argument).run w = (.error e, w₁)) (body : List Step) (caught : Bool) :
    (runStep g (.block kind argument body caught) w).2 = (some e, w₁) := by
  rw [runStep, hentered]

/-- A block that is entered runs its body, and is left whatever becomes of the body. -/
theorem snd_runStep_block_of_entered {result : StepResult} {w₁ : Writer}
    (hentered : (kind.enter g argument).run w = (.ok result, w₁)) (body : List Step)
    (caught : Bool) :
    (runStep g (.block kind argument body caught) w).2 =
      ((leaveBlock g kind (runBody g body w₁).2.1 (runBody g body w₁).2.2).1,
        (leaveBlock g kind (runBody g body w₁).2.1 (runBody g body w₁).2.2).2.2) := by
  rw [runStep, hentered]

theorem run_enter_ofMacro : ((BlockKind.ofMacro.enter g argument).run w) =
    (((beginMacro argument).run w).1.map fun _ ↦ .writer, ((beginMacro argument).run w).2) := by
  rw [BlockKind.enter, run_bind_pure]

theorem run_enter_ofDirectory : ((BlockKind.ofDirectory.enter g argument).run w) =
    (((pushDirectory g argument).run w).1.map fun _ ↦ .path (argument.text?.getD []),
      ((pushDirectory g argument).run w).2) := by
  rw [BlockKind.enter, run_bind_pure]

/-- A macro block that is left ends the macro that is being written. -/
theorem run_leave_ofMacro {current : List Char} (hcurrent : w.current = some current)
    (failed : Bool) : (BlockKind.ofMacro.leave g failed).run w = endMacro.run w := by
  have hwriting : w.isWriting = true := by rw [isWriting, hcurrent, Option.isSome_some]
  simp only [BlockKind.leave, run_bind, run_get, hwriting, if_true]

/-- A directory block that is left inside a directory closes one, even after a failure. -/
theorem run_leave_ofDirectory {current : List Char} (hcurrent : w.current = some current)
    (hdirectories : w.directories ≠ []) (failed : Bool) :
    (BlockKind.ofDirectory.leave g failed).run w =
      (((popDirectory g).run w).1.map fun _ ↦ (), ((popDirectory g).run w).2) := by
  have hwriting : w.isWriting = true := by rw [isWriting, hcurrent, Option.isSome_some]
  have hdepth : (w.depth != 0) = true := by simpa [depth] using hdirectories
  simp only [BlockKind.leave, run_bind, run_get, hwriting, hdepth, Bool.and_self, Bool.not_true,
    Bool.and_false, Bool.false_eq_true, if_false]
  rcases (popDirectory g).run w with ⟨e | path, w'⟩ <;> rfl

theorem leaveBlock_of_ok {failure : Option Failure} {w' : Writer}
    (h : (kind.leave g failure.isSome).run w = (.ok (), w')) :
    leaveBlock g kind failure w = (failure, false, w') := by
  rw [leaveBlock, h]

end Equations

end StarlarkMacro.Script
