import StarlarkMacro.Proofs.Script.Calls
import StarlarkMacro.Proofs.Script.Unwinding
import StarlarkMacro.Proofs.Writer.Transition
import Mathlib.Data.List.Infix

/-!
# What a directory block closes

The exit of a directory block closes one directory, the innermost, and does not ask which directory the
block has opened. So the block leaves the directories as it found them if its body has closed what the body
opened, and otherwise the block's own directory stays open in place of the innermost one that was leaked.
-/

namespace StarlarkMacro

open Writer

/-! ## One call -/

/-- How a call changes the open directories, and what its record tells of it. -/
inductive Moves (r : Record) : List Value → List Value → Prop
  | opens (ds : List Value) (path : Value) (hpushed : r.pushed? = some (pathText path))
      (hpopped : r.popped? = none) : Moves r ds (ds ++ [path])
  | closes (ds : List Value) (path : Value) (hpushed : r.pushed? = none)
      (hpopped : r.popped? = some (pathText path)) : Moves r (ds ++ [path]) ds
  | keeps (ds : List Value) (hpushed : r.pushed? = none) (hpopped : r.popped? = none) :
      Moves r ds ds
  | clears (ds : List Value) (hpushed : r.pushed? = none) (hpopped : r.popped? = none) :
      Moves r ds []

theorem text?_of_pathLiteral {g : Graph} {path : Value} {literal : Text × List Char}
    (h : pathLiteral g path = .ok literal) : path.text? = some (pathText path) := by
  cases htext : path.text? with
  | none =>
    rw [pathLiteral, htext] at h
    cases h
  | some t => rw [pathText, htext, Option.getD_some]

/-- Every call moves the directories in one of these ways. -/
theorem Transition.moves {g : Graph} {w later : Writer} {op : Operation}
    {outcome : Except Failure StepResult} (h : Transition g w op outcome later) (own : Bool) :
    Moves (Script.record (.operation op) op.arguments outcome own later) w.directories
      later.directories := by
  cases h with
  | begun => exact .keeps _ rfl rfl
  | ended hcurrent houtcome hlater =>
    subst hlater
    exact .clears _ rfl rfl
  | @pushed current path literal hcurrent hpath =>
    exact .opens _ path (text?_of_pathLiteral hpath) rfl
  | @withdrawn current d hcurrent hd hwaits =>
    obtain ⟨path, hkept⟩ := hd.exists_path
    obtain ⟨outer, hds⟩ := List.getLast?_eq_some_iff.1 hkept
    have hlater : (w.withdrawn current d).directories = outer := by
      rw [Writer.withdrawn, hds, List.dropLast_concat]
    rw [hlater, hds]
    exact .closes outer path rfl (congrArg some (hd.pathText_eq hkept).symm)
  | @popped current d hcurrent hd hwaits =>
    obtain ⟨path, hkept⟩ := hd.exists_path
    obtain ⟨outer, hds⟩ := List.getLast?_eq_some_iff.1 hkept
    have hlater : (w.left.drained.storing (statementLine popStatement)).directories = outer := by
      change w.directories.dropLast = outer
      rw [hds, List.dropLast_concat]
    rw [hlater, hds]
    exact .closes outer path rfl (congrArg some (hd.pathText_eq hkept).symm)
  | commanded => exact .keeps _ rfl rfl
  | @failed op e hfault =>
    rw [op.directories_leaves]
    exact .keeps _ (Record.pushed?_of_error ..) (Record.popped?_of_error ..)

/-- A call that stays above some directories opens another behind them, closes the last behind them, or does
neither. -/
theorem Moves.exists_opened {r : Record} {base opened later : List Value}
    (h : Moves r (base ++ opened) later) (hlength : base.length ≤ later.length) (hbase : base ≠ []) :
    ∃ opened', later = base ++ opened' ∧
      (opened.map pathText ++ r.pushed?.toList).Perm
        (r.popped?.toList ++ opened'.map pathText) := by
  generalize hds : base ++ opened = ds at h
  cases h with
  | opens _ path hpushed hpopped =>
    refine ⟨opened ++ [path], by rw [← hds, List.append_assoc], ?_⟩
    simp [hpushed, hpopped]
  | keeps _ hpushed hpopped =>
    refine ⟨opened, hds.symm, ?_⟩
    simp [hpushed, hpopped]
  | clears _ hpushed hpopped => exact absurd (List.length_eq_zero_iff.1 (Nat.le_zero.1 hlength)) hbase
  | closes _ path hpushed hpopped =>
    cases opened using List.reverseRecOn with
    | nil =>
      rw [List.append_nil] at hds
      rw [hds, List.length_append, List.length_singleton] at hlength
      exact absurd hlength (Nat.not_succ_le_self _)
    | append_singleton opened last _ =>
      rw [← List.append_assoc] at hds
      obtain ⟨rfl, hlast⟩ := List.append_inj' hds rfl
      obtain rfl : last = path := List.singleton_injective hlast
      refine ⟨opened, rfl, ?_⟩
      simp [hpushed, hpopped]

namespace Script

/-! ## Runs of calls -/

section Runs

variable {g : Graph}

/-- The directories that some calls have opened. -/
def pushes (records : List Record) : List Text := records.filterMap Record.pushed?

/-- The directories that some calls have closed. -/
def pops (records : List Record) : List Text := records.filterMap Record.popped?

theorem pushes_append_singleton (records : List Record) (r : Record) :
    pushes (records ++ [r]) = pushes records ++ r.pushed?.toList := by
  cases h : r.pushed? <;> simp [pushes, h]

theorem pops_append_singleton (records : List Record) (r : Record) :
    pops (records ++ [r]) = pops records ++ r.popped?.toList := by
  cases h : r.popped? <;> simp [pops, h]

/-- No call takes the directories down to a level. -/
def StaysAbove (g : Graph) (level : Nat) (ops : List Operation) (w : Writer) : Prop :=
  ∀ before ∈ ops.inits, level < (runOperations g before w).2.depth

theorem StaysAbove.of_append {level : Nat} {ops more : List Operation} {w : Writer}
    (h : StaysAbove g level (ops ++ more) w) : StaysAbove g level ops w := by
  intro before hbefore
  have hbegins := ((List.mem_inits _ _).1 hbefore).trans (List.prefix_append ops more)
  exact h before ((List.mem_inits _ _).2 hbegins)

theorem StaysAbove.depth {level : Nat} {ops : List Operation} {w : Writer}
    (h : StaysAbove g level ops w) : level < (runOperations g ops w).2.depth :=
  h ops ((List.mem_inits _ _).2 (List.prefix_refl ops))

theorem moves_recordOf {w : Writer} (hw : w.IsReliable g) (op : Operation) :
    Moves (recordOf g op w) w.directories ((op.run g).run w).2.directories :=
  (Transition.of_run hw.sink.write hw.sound op).moves true

/-- Calls that stay above some directories leave them open, and open and close others. -/
theorem exists_opened {level : Nat} {base : List Value} (hbase : base.length = level + 1)
    (ops : List Operation) {w : Writer} (hw : w.IsReliable g) (hdirectories : w.directories = base)
    (hstays : StaysAbove g level ops w) :
    ∃ opened, (runOperations g ops w).2.directories = base ++ opened ∧
      (pushes (runOperations g ops w).1).Perm
        (pops (runOperations g ops w).1 ++ opened.map pathText) := by
  induction ops using List.reverseRecOn with
  | nil => exact ⟨[], by simpa [runOperations, run] using hdirectories, .nil⟩
  | append_singleton ops op ih =>
    obtain ⟨opened, hopened, hperm⟩ := ih hstays.of_append
    have hdepth := hstays.depth
    have hnow : (runOperations g ops w).2.IsReliable g := (kept_isReliable g).run _ hw
    rw [runOperations_append_singleton] at hdepth ⊢
    have hmoves := moves_recordOf hnow op
    rw [hopened] at hmoves
    obtain ⟨opened', hlater, hperm'⟩ := hmoves.exists_opened (hbase ▸ hdepth)
      (List.ne_nil_of_length_eq_add_one hbase)
    refine ⟨opened', hlater, ?_⟩
    rw [pushes_append_singleton, pops_append_singleton]
    have hfirst := hperm.append_right (recordOf g op (runOperations g ops w).2).pushed?.toList
    have hsecond := hperm'.append_left (pops (runOperations g ops w).1)
    rw [List.append_assoc] at hfirst
    rw [List.append_assoc]
    exact hfirst.trans hsecond

end Runs

/-! ## One block -/

section Block

variable {g : Graph} {w : Writer}

theorem exists_current (hw : w.IsReliable g) (hdirectories : w.directories ≠ []) :
    ∃ current, w.current = some current := by
  obtain ⟨l, hagrees⟩ := hw.agrees
  apply Option.ne_none_iff_exists'.1
  intro hnone
  exact hdirectories (hagrees.isNew hnone).directories

theorem exists_run_popDirectory (hw : w.IsReliable g) {outer : List Value} {path : Value}
    (hdirectories : w.directories = outer ++ [path]) :
    ∃ later, (popDirectory g).run w = (.ok (pathText path), later) ∧ later.directories = outer := by
  obtain ⟨current, hcurrent⟩ := exists_current hw (by simp [hdirectories])
  have hlast : w.directories.getLast? = some path := by rw [hdirectories, List.getLast?_concat]
  have hleft : w.directories.dropLast = outer := by rw [hdirectories, List.dropLast_concat]
  obtain ⟨d, hd⟩ := hw.sound.exists_innermost hlast
  rw [hd.pathText_eq hlast]
  by_cases hwaits : w.pending.lines.getLast? = some d.line
  · exact ⟨_, run_popDirectory_of_waiting w hcurrent hw.indent hd hwaits, hleft⟩
  · exact ⟨_, run_popDirectory_of_neverRefuses w hcurrent hw.sink.write hw.indent hd hwaits, hleft⟩

/-- The exit of a directory block closes the innermost directory. -/
theorem exists_leaveBlock_of_opened (hw : w.IsReliable g) {outer : List Value} {path : Value}
    (hdirectories : w.directories = outer ++ [path]) (failure : Option Failure) :
    ∃ later, leaveBlock g .ofDirectory failure w = (failure, false, later) ∧
      later.directories = outer := by
  have hnonempty : w.directories ≠ [] := by simp [hdirectories]
  obtain ⟨current, hcurrent⟩ := exists_current hw hnonempty
  obtain ⟨later, hpop, hlater⟩ := exists_run_popDirectory hw hdirectories
  refine ⟨later, leaveBlock_of_ok ?_, hlater⟩
  rw [run_leave_ofDirectory hcurrent hnonempty, hpop]
  rfl

/-- A directory block that is entered has opened the directory of its path. -/
theorem directories_of_entered (hw : w.IsReliable g) {path : Value} {w₁ : Writer}
    {result : StepResult}
    (hentered : (BlockKind.ofDirectory.enter g path).run w = (.ok result, w₁)) :
    path.text? = some (pathText path) ∧ w₁.directories = w.directories ++ [path] := by
  have htransition := Transition.of_run hw.sink.write hw.sound (.pushDirectory path)
  rw [Operation.run, run_bind_pure] at htransition
  rw [run_enter_ofDirectory] at hentered
  rcases hrun : (pushDirectory g path).run w with ⟨e | ⟨⟩, later⟩
  · rw [hrun] at hentered
    cases hentered
  · rw [hrun] at hentered htransition
    obtain rfl : later = w₁ := congrArg Prod.snd hentered
    cases htransition with
    | pushed hcurrent hpath => exact ⟨text?_of_pathLiteral hpath, rfl⟩

/-- What a directory block leaves open whose body leaves its directory open. -/
theorem exists_left_open (hw : w.IsReliable g) {path : Value} {body : List Step}
    {w₁ left : Writer} {result : StepResult} {failure : Option Failure}
    (hentered : (BlockKind.ofDirectory.enter g path).run w = (.ok result, w₁))
    (hstays : StaysAbove g w.depth (callsIn g body w₁) w₁)
    (hbody : (runBody g body w₁).2 = (failure, left)) (caught : Bool) :
    ∃ opened later, path.text? = some (pathText path) ∧
      left.directories = w.directories ++ path :: opened ∧
      (pushes (runOperations g (callsIn g body w₁) w₁).1).Perm
        (pops (runOperations g (callsIn g body w₁) w₁).1 ++ opened.map pathText) ∧
      (runStep g (.block .ofDirectory path body caught) w).2 = (failure, later) ∧
      later.directories = w.directories ++ (path :: opened).dropLast := by
  have hw₁ : w₁.IsReliable g := by
    have henter := (kept_isReliable g).enter .ofDirectory path hw
    rwa [hentered] at henter
  have hleft : left.IsReliable g := by
    have hkept := (kept_isReliable g).runBody body hw₁
    rwa [hbody] at hkept
  obtain ⟨hpath, hfirst⟩ := directories_of_entered hw hentered
  have hlength : (w.directories ++ [path]).length = w.depth + 1 := List.length_append
  obtain ⟨opened, hopened, hperm⟩ := exists_opened hlength (callsIn g body w₁) hw₁ hfirst hstays
  rw [snd_runOperations_callsIn, hbody, List.append_assoc, List.singleton_append] at hopened
  have hlast : left.directories =
      w.directories ++ (path :: opened).dropLast ++
        [(path :: opened).getLast (List.cons_ne_nil path opened)] := by
    rw [hopened, List.append_assoc, List.dropLast_append_getLast]
  obtain ⟨later, hleave, hlater⟩ := exists_leaveBlock_of_opened hleft hlast failure
  refine ⟨opened, later, hpath, hopened, hperm, ?_, hlater⟩
  rw [snd_runStep_block_of_entered hentered, hbody, hleave]

end Block

/-- A directory block whose body takes the directories down no further than to the block's own leaves the
failure of its body and all the directories that are open at the end of the body, without the innermost. So
the directories are as they were before it if and only if its body has closed as many as it has opened. -/
theorem directories_runStep_ofDirectory (g : Graph) (steps : List Step) {sink : Sink}
    (hsink : sink.IsWilling) {path : Value} {body : List Step} {caught : Bool}
    {w w₁ left : Writer} {result : StepResult} {failure : Option Failure}
    (hstarted : (Step.block .ofDirectory path body caught, w) ∈
      startedBy g steps (Writer.new sink))
    (hentered : (BlockKind.ofDirectory.enter g path).run w = (.ok result, w₁))
    (hstays : StaysAbove g w.depth (callsIn g body w₁) w₁)
    (hbody : (runBody g body w₁).2 = (failure, left)) :
    ∃ opened later, path.text? = some (pathText path) ∧
      left.directories = w.directories ++ path :: opened ∧
      (pushes (runOperations g (callsIn g body w₁) w₁).1).Perm
        (pops (runOperations g (callsIn g body w₁) w₁).1 ++ opened.map pathText) ∧
      (runStep g (.block .ofDirectory path body caught) w).2 = (failure, later) ∧
      later.directories = w.directories ++ (path :: opened).dropLast ∧
      (later.paths = w.paths ↔
        (pushes (runOperations g (callsIn g body w₁) w₁).1).length =
          (pops (runOperations g (callsIn g body w₁) w₁).1).length) := by
  have hw : w.IsReliable g := (kept_isReliable g).startedBy steps (.new g hsink) _ hstarted
  obtain ⟨opened, later, hpath, hopened, hperm, hstep, hlater⟩ :=
    exists_left_open hw hentered hstays hbody caught
  refine ⟨opened, later, hpath, hopened, hperm, hstep, hlater, ?_⟩
  have hcount := hperm.length_eq
  rw [List.length_append, List.length_map] at hcount
  have hnone : opened = [] ↔
      (pushes (runOperations g (callsIn g body w₁) w₁).1).length =
        (pops (runOperations g (callsIn g body w₁) w₁).1).length := by
    rw [hcount, ← List.length_eq_zero_iff]
    omega
  rw [← hnone, Writer.paths, Writer.paths, hlater]
  cases opened with
  | nil => simp
  | cons first rest => simp

/-- Directory blocks whose bodies take the directories down no further than to the block's own leave the
directories as they found them. -/
def RestoresDirectories (g : Graph) (steps : List Step) (w₀ : Writer) : Prop :=
  ∀ (path : Value) (body : List Step) (caught : Bool) (w w₁ : Writer) (result : StepResult),
    (Step.block .ofDirectory path body caught, w) ∈ startedBy g steps w₀ →
    (BlockKind.ofDirectory.enter g path).run w = (.ok result, w₁) →
    StaysAbove g w.depth (callsIn g body w₁) w₁ →
    (runStep g (.block .ofDirectory path body caught) w).2.2.paths = w.paths

/-! ## A leak -/

/-- A body that fails between a push and its pop. -/
def leakingBody : List Step :=
  [.operation (.pushDirectory (.text "b" false)) false, .operation (.raise "stop") false]

def leaking : List Step :=
  [.operation (.beginMacro (.text "gen" false)) false,
    .block .ofDirectory (.text "a" false) leakingBody false]

/-- The state that the block finds. -/
def beforeLeak : Writer :=
  (runStep .empty (.operation (.beginMacro (.text "gen" false)) false) (Writer.new .willing)).2.2

/-- The state that its body finds. -/
def insideLeak : Writer :=
  ((BlockKind.ofDirectory.enter .empty (.text "a" false)).run beforeLeak).2

theorem leak_mem_startedBy :
    (Step.block .ofDirectory (.text "a" false) leakingBody false, beforeLeak) ∈
      startedBy .empty leaking (Writer.new .willing) := by
  apply List.mem_append_right
  apply List.mem_append_left
  exact mem_started_self _ _

theorem exists_entered_leak : ∃ result,
    (BlockKind.ofDirectory.enter .empty (.text "a" false)).run beforeLeak =
      (.ok result, insideLeak) := by
  have hok : ((BlockKind.ofDirectory.enter .empty (.text "a" false)).run beforeLeak).1.isOk =
      true := by
    decide +kernel
  rcases hrun : (BlockKind.ofDirectory.enter .empty (.text "a" false)).run beforeLeak with
    ⟨e | result, later⟩
  · rw [hrun] at hok
    cases hok
  · exact ⟨result, by rw [insideLeak, hrun]⟩

theorem staysAbove_leak : StaysAbove .empty beforeLeak.depth
    (callsIn .empty leakingBody insideLeak) insideLeak := by
  unfold StaysAbove
  decide +kernel

theorem not_restoresDirectories_leaking :
    ¬ RestoresDirectories .empty leaking (Writer.new .willing) := by
  intro h
  obtain ⟨result, hentered⟩ := exists_entered_leak
  have hrestored := h _ _ _ _ _ result leak_mem_startedBy hentered staysAbove_leak
  revert hrestored
  decide +kernel

theorem directories_runStep_ofDirectory_leaking : Sink.willing.IsWilling ∧
    ∃ opened later,
      (runBody .empty leakingBody insideLeak).2.2.directories =
        beforeLeak.directories ++ .text "a" false :: opened ∧
      (runStep .empty (.block .ofDirectory (.text "a" false) leakingBody false) beforeLeak).2.2 =
        later ∧
      later.directories = beforeLeak.directories ++ (.text "a" false :: opened).dropLast := by
  have hwilling : Sink.willing.IsWilling := ⟨fun _ ↦ rfl, fun _ ↦ rfl⟩
  obtain ⟨result, hentered⟩ := exists_entered_leak
  obtain ⟨opened, later, -, hopened, -, hstep, hlater, -⟩ :=
    directories_runStep_ofDirectory .empty leaking hwilling leak_mem_startedBy hentered
      staysAbove_leak rfl
  exact ⟨hwilling, opened, later, hopened, congrArg Prod.snd hstep, hlater⟩

end Script

end StarlarkMacro
