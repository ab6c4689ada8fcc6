import StarlarkMacro.Proofs.Script.Started
import StarlarkMacro.Proofs.Writer.History

/-!
# The calls that a script makes

Blocks call the writer when they are entered and when they are left. With these calls in their places a
script is a list of operations, in which no failure decides any more what comes next, and running that list
ends in the same state.
-/

namespace StarlarkMacro

open Writer

namespace BlockKind

/-- The call that enters a block. -/
def enterCall (argument : Value) : BlockKind → Operation
  | ofMacro => .beginMacro argument
  | ofDirectory => .pushDirectory argument

/-- The call that leaves a block, if it makes one in this state. -/
def leaveCalls (failed : Bool) (w : Writer) : BlockKind → List Operation
  | ofMacro => if w.isWriting then [.endMacro] else []
  | ofDirectory => if failed && !(w.isWriting && w.depth != 0) then [] else [.popDirectory]

/-- A block is entered as by the operation that opens it. -/
theorem snd_run_enter (g : Graph) (argument : Value) (kind : BlockKind) (w : Writer) :
    ((kind.enter g argument).run w).2 = (((kind.enterCall argument).run g).run w).2 := by
  cases kind with
  | ofMacro => rw [enter, run_bind_pure, enterCall, Operation.run, run_bind_pure]
  | ofDirectory => rw [enter, run_bind_pure, enterCall, Operation.run, run_bind_pure]

/-- Whether a block calls anything on its way out depends on the writer that its body leaves. -/
theorem snd_run_leave (g : Graph) (failed : Bool) (kind : BlockKind) (w : Writer) :
    ((kind.leave g failed).run w).2 = (Script.runOperations g (kind.leaveCalls failed w) w).2 := by
  cases kind with
  | ofMacro =>
    simp only [leave, leaveCalls, run_bind, run_get]
    split
    · rw [Script.runOperations_cons, Operation.run, run_bind_pure]
      rfl
    · rfl
  | ofDirectory =>
    simp only [leave, leaveCalls, run_bind, run_get]
    split
    · rfl
    · rw [Script.runOperations_cons, Operation.run]
      simp only [run_bind_pure]
      rfl

end BlockKind

namespace Script

mutual

/-- The calls that a step makes, in order. -/
def calls (g : Graph) : Step → Writer → List Operation
  | .operation op _, _ => [op]
  | .block kind argument body _, w =>
    kind.enterCall argument ::
      match (kind.enter g argument).run w with
      | (.error _, _) => []
      | (.ok _, w₁) =>
        callsIn g body w₁ ++
          kind.leaveCalls (runBody g body w₁).2.1.isSome (runBody g body w₁).2.2

/-- The same for the steps of a body. -/
def callsIn (g : Graph) : List Step → Writer → List Operation
  | [], _ => []
  | step :: rest, w =>
    calls g step w ++
      if endsBody (runStep g step w).2.1 step.caught then []
      else callsIn g rest (runStep g step w).2.2

end

variable {g : Graph}

theorem snd_runOperations_append (ops more : List Operation) (w : Writer) :
    (runOperations g (ops ++ more) w).2 = (runOperations g more (runOperations g ops w).2).2 := by
  rw [runOperations, List.map_append, run_append]
  rfl

theorem snd_leaveBlock (kind : BlockKind) (failure : Option Failure) (w : Writer) :
    (leaveBlock g kind failure w).2.2 = ((kind.leave g failure.isSome).run w).2 := by
  rw [leaveBlock]
  rcases (kind.leave g failure.isSome).run w with ⟨_ | _, _⟩ <;> rfl

mutual

/-- A step ends in the state in which its calls end. -/
theorem snd_runOperations_calls :
    ∀ (step : Step) (w : Writer), (runOperations g (calls g step w) w).2 = (runStep g step w).2.2
  | .operation op caught, w => by
    rw [calls, runOperations_cons, runStep_operation]
    rfl
  | .block kind argument body caught, w => by
    have henter := kind.snd_run_enter g argument w
    rw [calls, runOperations_cons, ← henter]
    rcases hentered : (kind.enter g argument).run w with ⟨e | result, w₁⟩
    · rw [snd_runStep_block_of_refused hentered]
      rfl
    · rw [snd_runStep_block_of_entered hentered, snd_runOperations_append,
        snd_runOperations_callsIn body w₁, ← BlockKind.snd_run_leave, snd_leaveBlock]

theorem snd_runOperations_callsIn : ∀ (body : List Step) (w : Writer),
    (runOperations g (callsIn g body w) w).2 = (runBody g body w).2.2
  | [], w => rfl
  | step :: rest, w => by
    rw [callsIn, snd_runOperations_append, snd_runOperations_calls step w, snd_runBody_cons]
    split
    · rfl
    · exact snd_runOperations_callsIn rest _

end

end Script

end StarlarkMacro
