import StarlarkMacro.Proofs.Identifier
import StarlarkMacro.Proofs.Writer.Representation

/-!
# Why operations fail

On a sink that takes every line and every flush, an operation fails for a fault that its arguments have in
the state in front of it, and for nothing else. A failing operation leaves that state as it is. Only a
command whose name is good and whose arguments are not has stored what waited, which moves lines from the
buffer to the sink and changes neither their order nor anything else. A pop could be refused behind a change,
for a path that it encodes when the path is off the stack already; no path without a literal is ever kept.
-/

namespace StarlarkMacro

namespace Sink

/-- Every line is stored and every flush is done. -/
structure IsWilling (s : Sink) : Prop where
  write : s.NeverRefuses
  flush : ∀ n, s.refusesFlush n = false

theorem isWilling_taking {s : Sink} (h : s.IsWilling) (lines : List (List Char)) (flushed : Bool) :
    (s.taking lines flushed).IsWilling := by
  cases flushed
  · exact ⟨h.write, h.flush⟩
  · exact ⟨h.write, h.flush⟩

end Sink

namespace Writer

theorem pathLiteral_of_text {g : Graph} {path : Value} {t : Text} (h : path.text? = some t) :
    pathLiteral g path = (Literal.marshal g path).map (t, ·) := by
  rw [pathLiteral, h]

section Arguments

variable {g : Graph} {i : Nat} {v : Value} {vs : List Value}

theorem argumentLiterals_cons_of_error {e : EncodingError} (hv : Literal.marshal g v = .error e) :
    argumentLiterals g i (v :: vs) = .error (e.under i) := by
  rw [argumentLiterals, hv]
  rfl

theorem argumentLiterals_cons_of_ok {literal : List Char} (hv : Literal.marshal g v = .ok literal) :
    argumentLiterals g i (v :: vs) = (argumentLiterals g (i + 1) vs).map (literal :: ·) := by
  rw [argumentLiterals, hv]
  cases argumentLiterals g (i + 1) vs <;> rfl

/-- Values with literals in front of a value without one. -/
def FailsBehind (g : Graph) (arguments before : List Value) (e : EncodingError) : Prop :=
  ∃ v after, arguments = before ++ v :: after ∧
    (∀ u ∈ before, ∃ literal, Literal.marshal g u = .ok literal) ∧ Literal.marshal g v = .error e

theorem failsBehind_cons_of_error {e cause : EncodingError} (hv : Literal.marshal g v = .error e)
    {before : List Value} :
    FailsBehind g (v :: vs) before cause ↔ before = [] ∧ cause = e := by
  constructor
  · rintro ⟨u, after, harguments, hbefore, hu⟩
    cases before with
    | nil =>
      obtain ⟨rfl, -⟩ := List.cons.inj harguments
      exact ⟨rfl, Except.error.inj (hu.symm.trans hv)⟩
    | cons first before =>
      obtain ⟨rfl, -⟩ := List.cons.inj harguments
      obtain ⟨literal, hliteral⟩ := hbefore v List.mem_cons_self
      cases hv.symm.trans hliteral
  · rintro ⟨rfl, rfl⟩
    exact ⟨v, vs, rfl, by simp, hv⟩

theorem failsBehind_cons_of_ok {literal : List Char} (hv : Literal.marshal g v = .ok literal)
    {cause : EncodingError} {before : List Value} :
    FailsBehind g (v :: vs) before cause ↔
      ∃ rest, before = v :: rest ∧ FailsBehind g vs rest cause := by
  constructor
  · rintro ⟨u, after, harguments, hbefore, hu⟩
    cases before with
    | nil =>
      obtain ⟨rfl, -⟩ := List.cons.inj harguments
      cases hv.symm.trans hu
    | cons first rest =>
      obtain ⟨rfl, rfl⟩ := List.cons.inj harguments
      exact ⟨rest, rfl, u, after, rfl, fun x hx ↦ hbefore x (List.mem_cons_of_mem v hx), hu⟩
  · rintro ⟨rest, rfl, u, after, rfl, hrest, hu⟩
    exact ⟨u, after, rfl, List.forall_mem_cons.2 ⟨⟨literal, hv⟩, hrest⟩, hu⟩

/-- The first argument without a literal is the one that a call is refused for. -/
theorem argumentLiterals_eq_error_iff {arguments : List Value} {e : EncodingError} :
    argumentLiterals g i arguments = .error e ↔
      ∃ before cause, FailsBehind g arguments before cause ∧ e = cause.under (i + before.length) := by
  induction arguments generalizing i with
  | nil => simp [argumentLiterals, FailsBehind]
  | cons v vs ih =>
    cases hv : Literal.marshal g v with
    | error cause =>
      simp only [argumentLiterals_cons_of_error hv, failsBehind_cons_of_error hv, Except.error.injEq]
      constructor
      · rintro rfl
        exact ⟨[], cause, ⟨rfl, rfl⟩, rfl⟩
      · rintro ⟨_, _, ⟨rfl, rfl⟩, rfl⟩
        rfl
    | ok literal =>
      have hmap : (argumentLiterals g (i + 1) vs).map (literal :: ·) = .error e ↔
          argumentLiterals g (i + 1) vs = .error e := by
        cases argumentLiterals g (i + 1) vs <;> simp [Except.map]
      have hnumber (rest : List Value) : i + 1 + rest.length = i + (v :: rest).length := by
        rw [List.length_cons, Nat.add_right_comm, Nat.add_assoc]
      rw [argumentLiterals_cons_of_ok hv, hmap, ih]
      simp only [failsBehind_cons_of_ok hv]
      constructor
      · rintro ⟨rest, cause, hrest, rfl⟩
        exact ⟨v :: rest, cause, ⟨rest, rfl, hrest⟩, by rw [hnumber]⟩
      · rintro ⟨_, cause, ⟨rest, rfl, hrest⟩, rfl⟩
        exact ⟨rest, cause, hrest, by rw [hnumber]⟩

end Arguments

end Writer

namespace Operation

open Writer

/-- The fault of an operation in a state, and the error about it. An operation has one fault at most. -/
inductive Fault (g : Graph) (w : Writer) : Operation → Failure → Prop
  | noActiveMacro {op : Operation} {name : String} (hcurrent : w.current = none)
      (hop : op.needsMacro? = some name) : Fault g w op (.contract (.noActiveMacro name))
  | nestedMacro {current : List Char} (hcurrent : w.current = some current) (name : Value) :
      Fault g w (.beginMacro name)
        (.contract (.nestedMacro (.text (Text.ofChars current) false) name))
  | macroName {name : Value} (hcurrent : w.current = none)
      (hname : Identifier.isValidValue name = false) :
      Fault g w (.beginMacro name) (.contract (.invalidIdentifier name))
  | pathNotText {current : List Char} {path : Value} (hcurrent : w.current = some current)
      (hpath : path.text? = none) :
      Fault g w (.pushDirectory path) (.contract (.encoding ⟨path, [0], .pathNotText⟩))
  | path {current : List Char} {path : Value} {t : Text} {e : EncodingError}
      (hcurrent : w.current = some current) (hpath : path.text? = some t)
      (he : Literal.marshal g path = .error e) :
      Fault g w (.pushDirectory path) (.contract (.encoding (e.under 0)))
  | emptyDirectoryStack {current : List Char} (hcurrent : w.current = some current)
      (hempty : w.directories = []) :
      Fault g w .popDirectory (.contract .emptyDirectoryStack)
  | commandName {current : List Char} {name : Value} (hcurrent : w.current = some current)
      (hname : Identifier.isValidValue name = false) (arguments : List Value) :
      Fault g w (.writeCommand name arguments) (.contract (.invalidIdentifier name))
  /-- The first argument without a literal, numbered from one behind the name. -/
  | argument {current : List Char} {name : Value} {arguments before : List Value}
      {e : EncodingError} (hcurrent : w.current = some current)
      (hname : Identifier.isValidValue name = true)
      (harguments : FailsBehind g arguments before e) :
      Fault g w (.writeCommand name arguments)
        (.contract (.encoding (e.under (1 + before.length))))
  | raised (message : Text) : Fault g w (.raise message) (.script message)

/-- The state that an operation leaves when it fails. -/
def leaves (w : Writer) : Operation → Failure → Writer
  | .writeCommand .., .contract (.encoding _) => w.drained
  | _, _ => w

section Fault

variable {g : Graph} {w : Writer}

/-- An operation with a fault fails with the error about it. -/
theorem Fault.run_eq {op : Operation} {e : Failure} (h : Fault g w op e)
    (hsink : w.sink.NeverRefuses) : (op.run g).run w = (.error e, op.leaves w e) := by
  cases h with
  | noActiveMacro hcurrent hop =>
    rw [run_of_idle hcurrent hop]
    cases op <;> rfl
  | nestedMacro hcurrent name =>
    rw [Operation.run, run_bind_pure, run_beginMacro_of_writing w hcurrent]
    rfl
  | macroName hcurrent hname =>
    rw [Operation.run, run_bind_pure,
      run_beginMacro_of_invalid w hcurrent (Identifier.isValidValue_eq_false_iff.1 hname)]
    rfl
  | @pathNotText current path hcurrent hpath =>
    have he : pathLiteral g path = .error ⟨path, [], .pathNotText⟩ := by
      rw [pathLiteral, hpath]
    rw [Operation.run, run_bind_pure, run_pushDirectory_of_error w hcurrent he]
    rfl
  | @path current path t e hcurrent hpath he =>
    have he' : pathLiteral g path = .error e := by
      rw [pathLiteral_of_text hpath, he]
      rfl
    rw [Operation.run, run_bind_pure, run_pushDirectory_of_error w hcurrent he']
    rfl
  | emptyDirectoryStack hcurrent hempty =>
    rw [Operation.run, run_bind_pure, run_popDirectory_of_empty w hcurrent hempty]
    rfl
  | commandName hcurrent hname arguments =>
    rw [Operation.run, run_bind_pure,
      run_writeCommand_of_invalid w hcurrent (Identifier.isValidValue_eq_false_iff.1 hname)]
    rfl
  | @argument current name arguments before e hcurrent hname harguments =>
    obtain ⟨sanitized, hsanitized⟩ := Identifier.isValidValue_eq_true_iff.1 hname
    have hliterals : argumentLiterals g 1 arguments = .error (e.under (1 + before.length)) :=
      argumentLiterals_eq_error_iff.2 ⟨before, e, harguments, rfl⟩
    rw [Operation.run, run_bind_pure,
      run_writeCommand_of_error w hcurrent hsink hsanitized hliterals]
    rfl
  | raised message => rfl

theorem exists_fault_or_ok_pushDirectory {current : List Char} (hcurrent : w.current = some current)
    (hindent : w.pending.indent = StatementBuffer.standardIndent) (path : Value) :
    (∃ e, Fault g w (.pushDirectory path) e) ∨
      ∃ r w', ((pushDirectory path).run g).run w = (.ok r, w') := by
  cases htext : path.text? with
  | none => exact .inl ⟨_, .pathNotText hcurrent htext⟩
  | some t =>
    cases hmarshal : Literal.marshal g path with
    | error e => exact .inl ⟨_, .path hcurrent htext hmarshal⟩
    | ok literal =>
      right
      have hpath : pathLiteral g path = .ok (t, literal) := by
        rw [pathLiteral_of_text htext, hmarshal]
        rfl
      rw [Operation.run, run_bind_pure, run_pushDirectory_of_ok w hcurrent hindent hpath]
      exact ⟨_, _, rfl⟩

theorem exists_fault_or_ok_popDirectory {current : List Char} (hcurrent : w.current = some current)
    (hw : w.IsSound g) (hsink : w.sink.NeverRefuses) :
    (∃ e, Fault g w .popDirectory e) ∨ ∃ r w', (popDirectory.run g).run w = (.ok r, w') := by
  cases hkept : w.directories.getLast? with
  | none => exact .inl ⟨_, .emptyDirectoryStack hcurrent (List.getLast?_eq_none_iff.1 hkept)⟩
  | some path =>
    right
    -- The path is encoded again, as it was when it was pushed.
    obtain ⟨d, hd⟩ := hw.exists_innermost hkept
    rw [Operation.run, run_bind_pure]
    by_cases hlast : w.pending.lines.getLast? = some d.line
    · rw [run_popDirectory_of_waiting w hcurrent hw.indent hd hlast]
      exact ⟨_, _, rfl⟩
    · rw [run_popDirectory_of_neverRefuses w hcurrent hsink hw.indent hd hlast]
      exact ⟨_, _, rfl⟩

theorem exists_fault_or_ok_writeCommand {current : List Char} (hcurrent : w.current = some current)
    (hindent : w.pending.indent = StatementBuffer.standardIndent) (hsink : w.sink.NeverRefuses)
    (name : Value) (arguments : List Value) :
    (∃ e, Fault g w (.writeCommand name arguments) e) ∨
      ∃ r w', ((writeCommand name arguments).run g).run w = (.ok r, w') := by
  cases hname : Identifier.isValidValue name with
  | false => exact .inl ⟨_, .commandName hcurrent hname arguments⟩
  | true =>
    obtain ⟨sanitized, hsanitized⟩ := Identifier.isValidValue_eq_true_iff.1 hname
    cases hliterals : argumentLiterals g 1 arguments with
    | error e =>
      obtain ⟨before, cause, harguments, rfl⟩ := argumentLiterals_eq_error_iff.1 hliterals
      exact .inl ⟨_, .argument hcurrent hname harguments⟩
    | ok literals =>
      right
      rw [Operation.run, run_bind_pure,
        run_writeCommand_of_ok w hcurrent hsink hindent hsanitized hliterals]
      exact ⟨_, _, rfl⟩

/-- An operation without a fault does not fail. -/
theorem exists_fault_or_ok (hw : w.IsSound g) (hsink : w.sink.IsWilling) (op : Operation) :
    (∃ e, Fault g w op e) ∨ ∃ r w', (op.run g).run w = (.ok r, w') := by
  cases hcurrent : w.current with
  | none =>
    cases hop : op.needsMacro? with
    | some name => exact .inl ⟨_, .noActiveMacro hcurrent hop⟩
    | none =>
      cases op with
      | raise message => exact .inl ⟨_, .raised message⟩
      | endMacro | pushDirectory _ | popDirectory | writeCommand _ _ => cases hop
      | beginMacro name =>
        cases hname : Identifier.isValidValue name with
        | false => exact .inl ⟨_, .macroName hcurrent hname⟩
        | true =>
          right
          obtain ⟨sanitized, hsanitized⟩ := Identifier.isValidValue_eq_true_iff.1 hname
          rw [Operation.run, run_bind_pure, run_beginMacro_of_valid w hcurrent hsanitized]
          exact ⟨_, _, rfl⟩
  | some current =>
    cases op with
    | beginMacro name => exact .inl ⟨_, .nestedMacro hcurrent name⟩
    | endMacro =>
      right
      rw [Operation.run, run_bind_pure, run_endMacro_of_neverRefuses w hcurrent hsink.write hw.indent,
        run_flushSink]
      have hflush : ∀ n, ((w.drained.storing (statementLine returnStatement)).ended
          current).sink.refusesFlush n = false := hsink.flush
      rw [hflush, if_neg Bool.false_ne_true]
      exact ⟨_, _, rfl⟩
    | pushDirectory path => exact exists_fault_or_ok_pushDirectory hcurrent hw.indent path
    | popDirectory => exact exists_fault_or_ok_popDirectory hcurrent hw hsink.write
    | writeCommand name arguments =>
      exact exists_fault_or_ok_writeCommand hcurrent hw.indent hsink.write name arguments
    | raise message => exact .inl ⟨_, .raised message⟩

/-- Failing is having a fault. -/
theorem run_eq_error_iff (hw : w.IsSound g) (hsink : w.sink.IsWilling) (op : Operation) (e : Failure)
    (later : Writer) :
    (op.run g).run w = (.error e, later) ↔ Fault g w op e ∧ later = op.leaves w e := by
  constructor
  · intro hrun
    obtain ⟨e', hfault⟩ | ⟨r, w', hok⟩ := exists_fault_or_ok hw hsink op
    · obtain ⟨he, rfl⟩ := Prod.mk.inj (hrun.symm.trans (hfault.run_eq hsink.write))
      obtain rfl := Except.error.inj he
      exact ⟨hfault, rfl⟩
    · cases hrun.symm.trans hok
  · rintro ⟨hfault, rfl⟩
    exact hfault.run_eq hsink.write

theorem text_leaves (w : Writer) (op : Operation) (e : Failure) : (op.leaves w e).text = w.text := by
  unfold leaves
  split
  · exact List.append_nil w.text
  · rfl

end Fault

end Operation

/-! ## Reachable states -/

namespace Writer

/-- Behind the encoding of the path only the sink can refuse a pop. -/
theorem Innermost.run_popDirectory_ne_encoding {g : Graph} {w : Writer} {d : Directory}
    (hd : w.Innermost g d) {current : List Char} (hcurrent : w.current = some current)
    (hindent : w.pending.indent = StatementBuffer.standardIndent) (e : EncodingError) (later : Writer) :
    (popDirectory g).run w ≠ (.error (.contract (.encoding e)), later) := by
  intro hrun
  by_cases hlast : w.pending.lines.getLast? = some d.line
  · rw [run_popDirectory_of_waiting w hcurrent hindent hd hlast] at hrun
    cases hrun
  · rw [run_popDirectory_of_not_waiting w hcurrent hindent hd hlast, ← bind_assoc,
      run_bind_pure] at hrun
    obtain hwritten | ⟨before, -, hwritten⟩ := run_writeStatement_cases w.left hindent popStatement
    · rw [hwritten] at hrun
      cases hrun
    · rw [hwritten] at hrun
      cases hrun

/-- A pop is refused for an encoding exactly if the path that is kept last has no literal, and the directory
is closed all the same. -/
theorem run_popDirectory_eq_encoding_iff {g : Graph} {w : Writer}
    (hindent : w.pending.indent = StatementBuffer.standardIndent) (e : EncodingError) (later : Writer) :
    (popDirectory g).run w = (.error (.contract (.encoding e)), later) ↔
      ∃ current path, w.current = some current ∧ w.directories.getLast? = some path ∧
        pathLiteral g path = .error e ∧ later = w.left := by
  constructor
  · intro hrun
    cases hcurrent : w.current with
    | none =>
      rw [popDirectory, run_bind, run_requireMacro_of_idle w hcurrent] at hrun
      cases hrun
    | some current =>
      cases hkept : w.directories.getLast? with
      | none =>
        rw [run_popDirectory_of_empty w hcurrent (List.getLast?_eq_none_iff.1 hkept)] at hrun
        cases hrun
      | some path =>
        cases hpath : pathLiteral g path with
        | error cause =>
          rw [run_popDirectory_of_error w hcurrent hkept hpath] at hrun
          cases hrun
          exact ⟨current, path, rfl, rfl, hpath, rfl⟩
        | ok literal =>
          have hd : w.Innermost g (directoryOf literal) := ⟨path, literal, hkept, hpath, rfl⟩
          exact absurd hrun (hd.run_popDirectory_ne_encoding hcurrent hindent e later)
  · rintro ⟨current, path, hcurrent, hkept, hpath, rfl⟩
    exact run_popDirectory_of_error w hcurrent hkept hpath

/-- A sound writer pops without such a refusal. -/
theorem IsSound.run_popDirectory_ne_encoding {g : Graph} {w : Writer} (h : w.IsSound g)
    (e : EncodingError) (later : Writer) :
    (popDirectory g).run w ≠ (.error (.contract (.encoding e)), later) := by
  intro hrun
  obtain ⟨_, path, -, hkept, hpath, -⟩ := (run_popDirectory_eq_encoding_iff h.indent e later).1 hrun
  obtain ⟨literal, hliteral⟩ := h.encodes path (List.mem_of_getLast? hkept)
  cases hliteral.symm.trans hpath

/-- What scripts keep on a sink that takes everything. -/
structure IsReliable (g : Graph) (w : Writer) : Prop where
  sink : w.sink.IsWilling
  agrees : ∃ l, Ledger.Agrees g l w

theorem IsReliable.sound {g : Graph} {w : Writer} (h : w.IsReliable g) : w.IsSound g := by
  obtain ⟨l, hagrees⟩ := h.agrees
  exact hagrees.sound

theorem IsReliable.indent {g : Graph} {w : Writer} (h : w.IsReliable g) :
    w.pending.indent = StatementBuffer.standardIndent := h.sound.indent

theorem IsReliable.new (g : Graph) {sink : Sink} (h : sink.IsWilling) : (new sink).IsReliable g :=
  ⟨h, .empty, .new g sink⟩

theorem IsReliable.after_operation {g : Graph} {w : Writer} (h : w.IsReliable g) (op : Operation) :
    ((op.run g).run w).2.IsReliable g := by
  refine ⟨?_, ?_⟩
  · obtain ⟨_, w₁, lines, flushed, -, -, hrun, -⟩ | ⟨before, ⟨-, hrefused⟩, -⟩ :=
      Operation.isTaken_or_isBroken h.sound op
    · rw [hrun]
      exact Sink.isWilling_taking h.sink lines flushed
    · rw [h.sink.write] at hrefused
      cases hrefused
  · obtain ⟨l, hagrees⟩ := h.agrees
    exact ⟨_, hagrees.after_operation op⟩

/-- How the operations of a writer fail. -/
structure FailsExactly (g : Graph) (w : Writer) : Prop where
  /-- An operation fails for its fault only, and its fault decides the error and the state it leaves. -/
  outcome : ∀ (op : Operation) e later, (op.run g).run w = (.error e, later) ↔
    op.Fault g w e ∧ later = op.leaves w e
  /-- No failing operation changes what has been written, be it stored or waiting. -/
  kept : ∀ (op : Operation) e later, (op.run g).run w = (.error e, later) →
    later.current = w.current ∧ later.directories = w.directories ∧ later.log = w.log ∧
      later.text = w.text
  /-- A pop encodes its path again when the path is off the stack, and is never refused for it. -/
  pop : ∀ e later, (Operation.popDirectory.run g).run w ≠ (.error (.contract (.encoding e)), later)
  /-- The path of an open directory has a literal still. -/
  encodes : ∀ path ∈ w.directories, ∃ literal, pathLiteral g path = .ok literal

theorem IsReliable.failsExactly {g : Graph} {w : Writer} (h : w.IsReliable g) :
    w.FailsExactly g where
  outcome := Operation.run_eq_error_iff h.sound h.sink
  kept op e later hrun := by
    obtain ⟨-, rfl⟩ := (Operation.run_eq_error_iff h.sound h.sink op e later).1 hrun
    refine ⟨?_, ?_, ?_, Operation.text_leaves w op e⟩
    all_goals
      unfold Operation.leaves
      split <;> rfl
  pop e later hrun := by
    rw [Operation.run, run_bind_pure] at hrun
    rcases hpop : (popDirectory g).run w with ⟨cause | path, w'⟩
    · rw [hpop] at hrun
      cases hrun
      exact h.sound.run_popDirectory_ne_encoding e _ hpop
    · rw [hpop] at hrun
      cases hrun
  encodes := h.sound.encodes

end Writer

/-- In every state that a script reaches on a sink that takes everything, operations fail exactly for their
faults, and leave no change behind but that a command may have stored what waited. -/
theorem Script.failsExactly_run (g : Graph) (steps : List Step) {sink : Sink}
    (hsink : sink.IsWilling) : (run g steps (Writer.new sink)).2.FailsExactly g := by
  have hkept : Kept g (Writer.IsReliable g) := fun op w hw ↦ hw.after_operation op
  exact (hkept.run steps (.new g hsink)).failsExactly

/-- A directory is open and its push waits. -/
theorem Script.failsExactly_run_pushed :
    Sink.willing.IsWilling ∧
      (run .empty [.operation (.beginMacro (.text "gen" false)) false,
        .operation (.pushDirectory (.text "a" false)) false] (Writer.new .willing)).2.FailsExactly
          .empty := by
  have hwilling : Sink.willing.IsWilling := ⟨fun _ ↦ rfl, fun _ ↦ rfl⟩
  exact ⟨hwilling, failsExactly_run .empty _ hwilling⟩

end StarlarkMacro
