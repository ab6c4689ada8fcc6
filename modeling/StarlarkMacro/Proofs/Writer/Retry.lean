import StarlarkMacro.Proofs.Writer.History
import StarlarkMacro.Proofs.Writer.Refusal
import Mathlib.Data.List.Basic

/-!
# Issuing refused calls again

A driver issues each operation until no write of it is refused. Every call it makes is recorded. The state
it comes to is that of a sink that takes everything, under the same operations, but that every refused pop
counts as a pop; what its sink stores is what the other sink stores less the lines that refused calls lost.
-/

namespace StarlarkMacro

/-- One call of an operation, between the state it found and the state it left. -/
structure Call where
  op : Operation
  before : Writer
  outcome : Except Failure StepResult
  after : Writer

namespace Call

/-- The call of an operation in a state. -/
def of (g : Graph) (op : Operation) (w : Writer) : Call :=
  ⟨op, w, ((op.run g).run w).1, ((op.run g).run w).2⟩

/-- Whether the call failed because a write was refused. -/
def isRefused (c : Call) : Bool :=
  match c.outcome with
  | .error (.sink .write) => true
  | _ => false

/-- The lines that the sink took during the call. -/
def stored (c : Call) : List (List Char) := c.after.sink.stored.drop c.before.sink.stored.length

/-- The lines that a refused call has taken out of the state and not stored: what waited from the refused
line on, and the line of a pop, whose directory is closed. -/
def lost (c : Call) : List (List Char) :=
  if c.isRefused then
    c.before.pending.lines.drop c.stored.length ++
      if c.op.isPop then [Writer.statementLine Writer.popStatement] else []
  else []

/-- Whether the call has done its part: it was not refused, or it is a pop. -/
def counts (c : Call) : Bool := !c.isRefused || c.op.isPop

end Call

namespace Script

/-- The operations of the calls that count. -/
def counted (calls : List Call) : List Operation := (calls.filter Call.counts).map Call.op

/-- A driver issues operations in order, each until no write of it is refused. The calls it makes lead from
one state to another. -/
inductive Driven (g : Graph) : List Operation → Writer → List Call → Writer → Prop
  | done (w : Writer) : Driven g [] w [] w
  | again {op : Operation} {ops : List Operation} {w w' : Writer} {calls : List Call}
      (hrefused : (Call.of g op w).isRefused = true)
      (rest : Driven g (op :: ops) (Call.of g op w).after calls w') :
      Driven g (op :: ops) w (Call.of g op w :: calls) w'
  | next {op : Operation} {ops : List Operation} {w w' : Writer} {calls : List Call}
      (hpassed : (Call.of g op w).isRefused = false)
      (rest : Driven g ops (Call.of g op w).after calls w') :
      Driven g (op :: ops) w (Call.of g op w :: calls) w'

theorem counted_cons_of_counts {c : Call} (h : c.counts = true) (calls : List Call) :
    counted (c :: calls) = c.op :: counted calls := by
  simp [counted, h]

theorem counted_cons_of_not_counts {c : Call} (h : c.counts = false) (calls : List Call) :
    counted (c :: calls) = counted calls := by
  simp [counted, h]

end Script

/-! ## One call -/

namespace Call

variable {g : Graph} {op : Operation} {w : Writer}

@[simp] theorem op_of : (of g op w).op = op := rfl

@[simp] theorem before_of : (of g op w).before = w := rfl

theorem isRefused_iff {c : Call} : c.isRefused = true ↔ c.outcome = .error (.sink .write) := by
  unfold isRefused
  split <;> simp_all

section Sinks

variable (hsound : w.IsSound g)
include hsound

theorem isBroken_of_isRefused (h : (of g op w).isRefused = true) : Operation.IsBroken g op w := by
  obtain ⟨outcome, w₁, lines, flushed, houtcome, -, hrun, -⟩ | hbroken :=
    Operation.isTaken_or_isBroken hsound op
  · have hfst : ((op.run g).run w).1 = outcome := by rw [hrun]
    exact absurd (hfst ▸ isRefused_iff.1 h) houtcome
  · exact hbroken

theorem exists_after_of_isRefused (h : (of g op w).isRefused = true) :
    ∃ before, w.RefusesBehind before ∧ (of g op w).after = (op.entered w).broken before := by
  obtain ⟨before, hbefore, hrun⟩ := isBroken_of_isRefused hsound h
  exact ⟨before, hbefore, congrArg Prod.snd hrun⟩

theorem exists_after_of_not_isRefused (h : (of g op w).isRefused = false) :
    ∃ w₁ lines flushed, op.Follows w w₁ ∧
      (of g op w).after = Writer.on w₁ (w.sink.taking lines flushed) ∧
      ∀ s : Sink, s.NeverRefuses →
        ((op.run g).run (w.on s)).2 = Writer.on w₁ (s.taking lines flushed) := by
  obtain ⟨outcome, w₁, lines, flushed, -, hfollows, hrun, hwilling⟩ | ⟨before, -, hrun⟩ :=
    Operation.isTaken_or_isBroken hsound op
  · exact ⟨w₁, lines, flushed, hfollows, congrArg Prod.snd hrun, hwilling⟩
  · have hrefused : (of g op w).isRefused = true := isRefused_iff.2 (congrArg Prod.fst hrun)
    rw [h] at hrefused
    cases hrefused

variable (g op) in
/-- What stands in the sink after a call stood there before, or the sink took it during the call. -/
theorem stored_after : (of g op w).after.sink.stored = w.sink.stored ++ (of g op w).stored := by
  have hprefix : w.sink.stored <+: (of g op w).after.sink.stored := by
    cases hrefused : (of g op w).isRefused with
    | true =>
      obtain ⟨before, -, hafter⟩ := exists_after_of_isRefused hsound hrefused
      simp [hafter]
    | false =>
      obtain ⟨w₁, lines, flushed, -, hafter, -⟩ := exists_after_of_not_isRefused hsound hrefused
      simp [hafter]
  exact (List.prefix_iff_eq_append.1 hprefix).symm

variable (g op) in
theorem sound_after : (of g op w).after.IsSound g := op.keepsSound_run g w hsound

theorem refusesWrite_after : (of g op w).after.sink.refusesWrite = w.sink.refusesWrite := by
  cases hrefused : (of g op w).isRefused with
  | true =>
    obtain ⟨before, -, hafter⟩ := exists_after_of_isRefused hsound hrefused
    simp [hafter]
  | false =>
    obtain ⟨w₁, lines, flushed, -, hafter, -⟩ := exists_after_of_not_isRefused hsound hrefused
    simp [hafter]

/-- A refused call has come to a write that is refused. -/
theorem refusesWrite_writes_after (h : (of g op w).isRefused = true) :
    w.sink.writes < (of g op w).after.sink.writes ∧
      w.sink.refusesWrite (of g op w).after.sink.writes = true := by
  obtain ⟨before, hbefore, hafter⟩ := exists_after_of_isRefused hsound h
  rw [hafter, Writer.writes_broken, Operation.sink_entered]
  exact ⟨by omega, hbefore.2⟩

theorem current_after_of_isRefused (h : (of g op w).isRefused = true) :
    (of g op w).after.current = w.current := by
  obtain ⟨before, -, hafter⟩ := exists_after_of_isRefused hsound h
  simp [hafter]

theorem current_after_of_not_isRefused (h : (of g op w).isRefused = false) :
    (of g op w).after.current = op.currentAfter w.current := by
  obtain ⟨w₁, lines, flushed, hfollows, hafter, -⟩ := exists_after_of_not_isRefused hsound h
  rw [hafter]
  exact hfollows.current

variable (g op) in
theorem not_isRefused_of_neverRefuses (h : w.sink.NeverRefuses) : (of g op w).isRefused = false := by
  cases hrefused : (of g op w).isRefused with
  | true =>
    have hwrite := (refusesWrite_writes_after hsound hrefused).2
    rw [h] at hwrite
    exact absurd hwrite Bool.false_ne_true
  | false => rfl

/-- A refused call has stored some of what waited, and lost the rest. -/
theorem stored_append_lost_of_isRefused (h : (of g op w).isRefused = true) :
    (of g op w).stored ++ (of g op w).lost = w.pending.lines ++
      if op.isPop then [Writer.statementLine Writer.popStatement] else [] := by
  obtain ⟨before, ⟨⟨after, hlines⟩, -⟩, hafter⟩ := exists_after_of_isRefused hsound h
  have hstored : (of g op w).stored = before := by
    have happend := stored_after g op hsound
    rw [hafter] at happend
    simpa using happend.symm
  rw [lost, if_pos h, hstored, ← List.append_assoc, before_of, ← hlines, List.drop_left, op_of]

/-- A call that counts has done what it does on a sink that takes everything. -/
theorem exists_run_of_counts (h : (of g op w).counts = true) {s : Sink} (hs : s.NeverRefuses) :
    ∃ s' : Sink, s'.NeverRefuses ∧
      ((op.run g).run (w.on s)).2 = (of g op w).after.on s' ∧
      s'.stored = s.stored ++ ((of g op w).stored ++ (of g op w).lost) := by
  cases hrefused : (of g op w).isRefused with
  | true =>
    obtain rfl : op = .popDirectory := by
      apply Operation.eq_popDirectory_of_isPop
      simpa [counts, hrefused] using h
    have hrun := (isBroken_of_isRefused hsound hrefused).run_popDirectory hsound hs
    obtain ⟨before, -, hafter⟩ := exists_after_of_isRefused hsound hrefused
    refine ⟨s.storing (w.pending.lines ++ [Writer.statementLine Writer.popStatement]), ?_, ?_, ?_⟩
    · intro n
      exact hs n
    · rw [hrun, hafter]
      rfl
    · rw [stored_append_lost_of_isRefused hsound hrefused]
      rfl
  | false =>
    obtain ⟨w₁, lines, flushed, -, hafter, hwilling⟩ := exists_after_of_not_isRefused hsound hrefused
    have hstored : (of g op w).stored = lines := by
      have happend := stored_after g op hsound
      rw [hafter] at happend
      simpa using happend.symm
    refine ⟨s.taking lines flushed, ?_, ?_, ?_⟩
    · intro n
      rw [Sink.refusesWrite_taking]
      exact hs n
    · rw [hwilling s hs, hafter]
      rfl
    · simp [hstored, lost, hrefused]

/-- A call that does not count can be issued again, and does then what is left of it. -/
theorem exists_run_of_not_counts (h : (of g op w).counts = false) {s : Sink} (hs : s.NeverRefuses) :
    ∃ s' : Sink, s'.NeverRefuses ∧
      (op.run g).run ((of g op w).after.on s') = (op.run g).run (w.on s) ∧
      s'.stored = s.stored ++ ((of g op w).stored ++ (of g op w).lost) := by
  obtain ⟨hrefused, hpop⟩ : (of g op w).isRefused = true ∧ op.isPop = false := by
    simpa [counts] using h
  have hrun := (isBroken_of_isRefused hsound hrefused).run_drained hsound hpop hs
  obtain ⟨before, -, hafter⟩ := exists_after_of_isRefused hsound hrefused
  refine ⟨s.storing w.pending.lines, ?_, ?_, ?_⟩
  · intro n
    exact hs n
  · rw [← hrun, hafter, Operation.entered, hpop]
    rfl
  · simp [stored_append_lost_of_isRefused hsound hrefused, hpop]

/-- No call leaves an empty line behind in the buffer. -/
theorem ne_nil_of_mem_pending (hlines : ∀ line ∈ w.pending.lines, line ≠ []) :
    ∀ line ∈ (of g op w).after.pending.lines, line ≠ [] := by
  intro line hline
  cases hrefused : (of g op w).isRefused with
  | true =>
    obtain ⟨before, -, hafter⟩ := exists_after_of_isRefused hsound hrefused
    rw [hafter] at hline
    cases hline
  | false =>
    obtain ⟨w₁, lines, flushed, hfollows, hafter, -⟩ := exists_after_of_not_isRefused hsound hrefused
    rw [hafter] at hline
    obtain hwaits | hne := hfollows.lines line hline
    · exact hlines line hwaits
    · exact hne

theorem ne_nil_of_mem_lost (hlines : ∀ line ∈ w.pending.lines, line ≠ []) :
    ∀ line ∈ (of g op w).lost, line ≠ [] := by
  intro line hline
  cases hrefused : (of g op w).isRefused with
  | true =>
    have hmem : line ∈ w.pending.lines ++
        if op.isPop then [Writer.statementLine Writer.popStatement] else [] := by
      rw [← stored_append_lost_of_isRefused hsound hrefused]
      exact List.mem_append_right _ hline
    obtain hwaits | hown := List.mem_append.1 hmem
    · exact hlines line hwaits
    · split at hown
      · rw [List.mem_singleton.1 hown]
        simp [Writer.statementLine]
      · cases hown
  | false => simp [lost, hrefused] at hline

end Sinks

theorem length_flatten_flatMap (calls : List Call) :
    (calls.flatMap fun c ↦ c.stored ++ c.lost).flatten.length =
      (calls.flatMap stored).flatten.length + (calls.flatMap lost).flatten.length := by
  induction calls with
  | nil => rfl
  | cons c calls ih =>
    simp only [List.flatMap_cons, List.flatten_append, List.length_append] at ih ⊢
    omega

/-- Nothing is missing from the text exactly if no call lost a line. -/
theorem flatten_stored_eq_iff {calls : List Call}
    (hlines : ∀ c ∈ calls, ∀ line ∈ c.lost, line ≠ []) :
    (calls.flatMap stored).flatten = (calls.flatMap fun c ↦ c.stored ++ c.lost).flatten ↔
      ∀ c ∈ calls, c.lost = [] := by
  constructor
  · intro htext c hc
    have hlength := congrArg List.length htext
    rw [length_flatten_flatMap] at hlength
    have hnil : (calls.flatMap lost).flatten = [] := List.eq_nil_of_length_eq_zero (by omega)
    refine List.eq_nil_iff_forall_not_mem.2 fun line hline ↦ hlines c hc line hline ?_
    exact List.flatten_eq_nil_iff.1 hnil line (List.mem_flatMap.2 ⟨c, hc, hline⟩)
  · intro hnone
    have hsame : (calls.flatMap fun c ↦ c.stored ++ c.lost) = calls.flatMap stored := by
      apply List.flatMap_congr
      intro c hc
      rw [hnone c hc, List.append_nil]
    rw [hsame]

end Call

/-! ## A driver -/

namespace Script

variable {g : Graph}

/-- The driver comes to an end if the sink refuses no write behind some number. -/
theorem exists_driven {limit : ℕ} (ops : List Operation) {w : Writer}
    (hsound : w.IsSound g)
    (hlimit : ∀ n, w.sink.refusesWrite n = true → n ≤ limit) :
    ∃ calls w', Driven g ops w calls w' := by
  induction ops generalizing w with
  | nil => exact ⟨[], w, .done w⟩
  | cons op ops ih =>
    induction hn : limit - w.sink.writes using Nat.strongRecOn generalizing w with
    | _ n ihn =>
      have hsound' := Call.sound_after g op hsound
      have hlimit' : ∀ n, (Call.of g op w).after.sink.refusesWrite n = true → n ≤ limit := by
        rwa [Call.refusesWrite_after hsound]
      cases hrefused : (Call.of g op w).isRefused with
      | true =>
        obtain ⟨hlt, hwrite⟩ := Call.refusesWrite_writes_after hsound hrefused
        have hle := hlimit _ hwrite
        obtain ⟨calls, w', hdriven⟩ := ihn _ (by omega) hsound' hlimit' rfl
        exact ⟨_, _, .again hrefused hdriven⟩
      | false =>
        obtain ⟨calls, w', hdriven⟩ := ih hsound' hlimit'
        exact ⟨_, _, .next hrefused hdriven⟩

/-- The macro that is being written after some operations whose lines are all taken. -/
def currentAfterAll (ops : List Operation) (current : Option (List Char)) : Option (List Char) :=
  ops.foldl (fun current op ↦ op.currentAfter current) current

theorem current_runOperations (ops : List Operation) {w : Writer}
    (hsound : w.IsSound g) (hs : w.sink.NeverRefuses) :
    (runOperations g ops w).2.current = currentAfterAll ops w.current := by
  induction ops generalizing w with
  | nil => rfl
  | cons op ops ih =>
    have hpassed := Call.not_isRefused_of_neverRefuses g op hsound hs
    have hs' : (Call.of g op w).after.sink.NeverRefuses := by
      intro n
      rw [Call.refusesWrite_after hsound]
      exact hs n
    calc (runOperations g (op :: ops) w).2.current
        = (runOperations g ops (Call.of g op w).after).2.current := rfl
      _ = currentAfterAll ops (Call.of g op w).after.current := ih (Call.sound_after _ _ hsound) hs'
      _ = currentAfterAll (op :: ops) w.current := by
        rw [Call.current_after_of_not_isRefused hsound hpassed]
        rfl

/-- Refused calls do not change which macro is being written. -/
theorem Driven.current {ops : List Operation} {w w' : Writer} {calls : List Call}
    (h : Driven g ops w calls w') (hsound : w.IsSound g) :
    w'.current = currentAfterAll ops w.current := by
  induction h with
  | done w => rfl
  | again hrefused _ ih =>
    rw [ih (Call.sound_after _ _ hsound), Call.current_after_of_isRefused hsound hrefused]
  | next hpassed _ ih =>
    rw [ih (Call.sound_after _ _ hsound), Call.current_after_of_not_isRefused hsound hpassed]
    rfl

/-- What the sink holds in the end it held before, or it took it during some call. -/
theorem Driven.stored {ops : List Operation} {w w' : Writer} {calls : List Call}
    (h : Driven g ops w calls w') (hsound : w.IsSound g) :
    w'.sink.stored = w.sink.stored ++ calls.flatMap Call.stored := by
  induction h with
  | done w => simp
  | again _ _ ih | next _ _ ih =>
    rw [ih (Call.sound_after _ _ hsound), Call.stored_after _ _ hsound, List.flatMap_cons,
      List.append_assoc]

/-- An operation that is not a pop counts once. -/
theorem Driven.exists_counted_eq_cons {op : Operation} {ops : List Operation} {w w' : Writer}
    {calls : List Call} (h : Driven g (op :: ops) w calls w') (hpop : op.isPop = false) :
    ∃ more, counted calls = op :: more := by
  generalize hall : op :: ops = all at h
  induction h with
  | done w => cases hall
  | again hrefused _ ih =>
    obtain ⟨rfl, rfl⟩ := List.cons.inj hall
    obtain ⟨more, hmore⟩ := ih rfl
    refine ⟨more, ?_⟩
    rw [counted_cons_of_not_counts (by simp [Call.counts, hrefused, hpop]), hmore]
  | next hpassed _ _ =>
    obtain ⟨rfl, rfl⟩ := List.cons.inj hall
    exact ⟨_, counted_cons_of_counts (by simp [Call.counts, hpassed]) _⟩

/-- The calls that count lead a sink that takes everything to the same state. -/
theorem Driven.exists_run_counted {ops : List Operation} {w w' : Writer} {calls : List Call}
    (h : Driven g ops w calls w') (hsound : w.IsSound g)
    {s : Sink} (hs : s.NeverRefuses) :
    ∃ s' : Sink, (runOperations g (counted calls) (w.on s)).2 = w'.on s' ∧
      s'.stored = s.stored ++ calls.flatMap fun c ↦ c.stored ++ c.lost := by
  induction h generalizing s with
  | done w => exact ⟨s, rfl, by simp⟩
  | @again op ops w w' calls hrefused rest ih =>
    cases hcounts : (Call.of g op w).counts with
    | true =>
      obtain ⟨s₁, hs₁, hrun, hstored₁⟩ := Call.exists_run_of_counts hsound hcounts hs
      obtain ⟨s', hrest, hstored⟩ := ih (Call.sound_after _ _ hsound) hs₁
      refine ⟨s', ?_, ?_⟩
      · rw [counted_cons_of_counts hcounts, runOperations_cons, Call.op_of, hrun, hrest]
      · rw [hstored, hstored₁, List.flatMap_cons, List.append_assoc]
    | false =>
      obtain ⟨s₁, hs₁, hrun, hstored₁⟩ := Call.exists_run_of_not_counts hsound hcounts hs
      obtain ⟨s', hrest, hstored⟩ := ih (Call.sound_after _ _ hsound) hs₁
      have hpop : op.isPop = false := by simpa [Call.counts, hrefused] using hcounts
      obtain ⟨more, hmore⟩ := rest.exists_counted_eq_cons hpop
      refine ⟨s', ?_, ?_⟩
      · rw [hmore, runOperations_cons, hrun] at hrest
        rw [counted_cons_of_not_counts hcounts, hmore, runOperations_cons, hrest]
      · rw [hstored, hstored₁, List.flatMap_cons, List.append_assoc]
  | @next op ops w w' calls hpassed rest ih =>
    have hcounts : (Call.of g op w).counts = true := by simp [Call.counts, hpassed]
    obtain ⟨s₁, hs₁, hrun, hstored₁⟩ := Call.exists_run_of_counts hsound hcounts hs
    obtain ⟨s', hrest, hstored⟩ := ih (Call.sound_after _ _ hsound) hs₁
    refine ⟨s', ?_, ?_⟩
    · rw [counted_cons_of_counts hcounts, runOperations_cons, Call.op_of, hrun, hrest]
    · rw [hstored, hstored₁, List.flatMap_cons, List.append_assoc]

/-- Each operation counts once, and once more for every time it is refused if it is a pop. -/
theorem Driven.length_counted {ops : List Operation} {w w' : Writer} {calls : List Call}
    (h : Driven g ops w calls w') :
    (counted calls).length =
      ops.length + (calls.filter fun c ↦ c.isRefused && c.op.isPop).length := by
  induction h with
  | done w => rfl
  | @again op ops w w' calls hrefused _ ih =>
    cases hpop : op.isPop with
    | true =>
      rw [counted_cons_of_counts (by simp [Call.counts, hpop]),
        List.filter_cons_of_pos (by simp [hrefused, hpop])]
      simp only [List.length_cons] at ih ⊢
      omega
    | false =>
      rw [counted_cons_of_not_counts (by simp [Call.counts, hrefused, hpop]),
        List.filter_cons_of_neg (by simp [hpop]), ih]
  | next hpassed _ ih =>
    rw [counted_cons_of_counts (by simp [Call.counts, hpassed]),
      List.filter_cons_of_neg (by simp [hpassed]), List.length_cons, List.length_cons, ih]
    omega

/-- The calls that count are the operations themselves exactly if no pop is refused. -/
theorem Driven.counted_eq_iff {ops : List Operation} {w w' : Writer} {calls : List Call}
    (h : Driven g ops w calls w') :
    counted calls = ops ↔ ∀ c ∈ calls, c.isRefused = true → c.op.isPop = false := by
  constructor
  · intro hcounted c hc hrefused
    have hlength := h.length_counted
    rw [hcounted] at hlength
    have hnone : (calls.filter fun c ↦ c.isRefused && c.op.isPop) = [] :=
      List.eq_nil_of_length_eq_zero (by omega)
    simpa [hrefused] using List.filter_eq_nil_iff.1 hnone c hc
  · intro hpops
    induction h with
    | done w => rfl
    | again hrefused _ ih =>
      have hpop := hpops _ List.mem_cons_self hrefused
      rw [counted_cons_of_not_counts (by rw [Call.counts, hrefused, hpop]; rfl),
        ih fun c hc ↦ hpops c (List.mem_cons_of_mem _ hc)]
    | next hpassed _ ih =>
      rw [counted_cons_of_counts (by simp [Call.counts, hpassed]), Call.op_of,
        ih fun c hc ↦ hpops c (List.mem_cons_of_mem _ hc)]

theorem Driven.ne_nil_of_mem_lost {ops : List Operation} {w w' : Writer} {calls : List Call}
    (h : Driven g ops w calls w') (hsound : w.IsSound g)
    (hlines : ∀ line ∈ w.pending.lines, line ≠ []) :
    ∀ c ∈ calls, ∀ line ∈ c.lost, line ≠ [] := by
  induction h with
  | done w => simp
  | again _ _ ih | next _ _ ih =>
    intro c hc
    obtain rfl | hc := List.mem_cons.1 hc
    · exact Call.ne_nil_of_mem_lost hsound hlines
    · exact ih (Call.sound_after _ _ hsound) (Call.ne_nil_of_mem_pending hsound hlines) c hc

/-- A new writer on a sink that refuses the writes of some numbers, and no flush. -/
def refusingWriter (refused : List ℕ) : Writer :=
  Writer.new (.empty (fun n ↦ refused.contains n) fun _ ↦ false)

/-- A driver that issues refused calls again comes to an end, whatever writes are refused. It leaves the
macro of the same operations on a sink that takes everything, and the directories of the calls that count.
Its text is the text of these calls less the lost lines, and the same exactly if no call lost a line. The
calls that count are the operations themselves exactly if no pop was refused. -/
theorem driven_eq_counted (g : Graph) (refused : List ℕ) (ops : List Operation) :
    (∃ calls w, Driven g ops (refusingWriter refused) calls w) ∧
      ∀ calls w, Driven g ops (refusingWriter refused) calls w →
        let same := (runOperations g ops (Writer.new .willing)).2
        let full := (runOperations g (counted calls) (Writer.new .willing)).2
        w.current = same.current ∧
        w.directories = full.directories ∧
        w.sink.stored = calls.flatMap Call.stored ∧
        full.sink.stored = calls.flatMap (fun c ↦ c.stored ++ c.lost) ∧
        (w.sink.text = full.sink.text ↔ ∀ c ∈ calls, c.lost = []) ∧
        (counted calls = ops ↔ ∀ c ∈ calls, c.isRefused = true → c.op.isPop = false) := by
  constructor
  · apply exists_driven ops (.new g _)
    intro n hn
    exact List.le_max?_getD_of_mem (k := 0) (List.contains_iff_mem.1 hn)
  · intro calls w hdriven same full
    have hnew : (refusingWriter refused).IsSound g := .new g _
    have hcurrent : w.current = same.current := by
      rw [hdriven.current hnew, current_runOperations ops (.new g _) fun _ ↦ rfl]
      rfl
    obtain ⟨s, hrun, hfull⟩ := hdriven.exists_run_counted hnew (s := .willing) fun _ ↦ rfl
    have heq : full = w.on s := hrun
    have hstored : w.sink.stored = calls.flatMap Call.stored := by
      simpa [refusingWriter, Writer.new, Sink.empty] using hdriven.stored hnew
    have hboth : full.sink.stored = calls.flatMap fun c ↦ c.stored ++ c.lost := by
      rw [heq, Writer.sink_on, hfull]
      rfl
    have hlost : ∀ c ∈ calls, ∀ line ∈ c.lost, line ≠ [] :=
      hdriven.ne_nil_of_mem_lost hnew (by simp [refusingWriter, Writer.new, StatementBuffer.empty])
    refine ⟨hcurrent, by rw [heq]; rfl, hstored, hboth, ?_, hdriven.counted_eq_iff⟩
    rw [Sink.text, Sink.text, hstored, hboth]
    exact Call.flatten_stored_eq_iff hlost

/-- With the fifth write refused a pop is issued again and closes a second directory; with the seventh, the
push of the third directory is refused when a command asks for it. -/
def refusedTwice : List Operation :=
  [.beginMacro (.text "gen" false), .pushDirectory (.text "a" false),
    .pushDirectory (.text "b" false), .writeCommand (.text "x" false) [], .popDirectory,
    .pushDirectory (.text "c" false), .writeCommand (.text "y" false) []]

theorem exists_driven_refusedTwice :
    ∃ calls w, Driven .empty refusedTwice (refusingWriter [5, 7]) calls w ∧
      w.paths = ["c"] ∧
      w.sink.stored =
        ["def gen(ctx):\n".toList, "    ctx = ctx.push_directory(ctx, \"a\")\n".toList,
          "    ctx = ctx.push_directory(ctx, \"b\")\n".toList, "    ctx.x(ctx)\n".toList,
          "    ctx = ctx.pop_directory(ctx)\n".toList, "    ctx.y(ctx)\n".toList] ∧
      calls.flatMap Call.lost =
        ["    ctx = ctx.pop_directory(ctx)\n".toList,
          "    ctx = ctx.push_directory(ctx, \"c\")\n".toList] := by
  refine ⟨_, _, .next ?_ <| .next ?_ <| .next ?_ <| .next ?_ <| .again ?_ <| .next ?_ <| .next ?_ <|
    .again ?_ <| .next ?_ <| .done _, ?_, ?_, ?_⟩
  all_goals decide +kernel

theorem driven_eq_counted_refusedTwice :
    ∃ calls w, Driven .empty refusedTwice (refusingWriter [5, 7]) calls w ∧
      let full := (runOperations .empty (counted calls) (Writer.new .willing)).2
      w.current = some "gen".toList ∧ full.paths = ["c"] ∧
      full.sink.stored = calls.flatMap (fun c ↦ c.stored ++ c.lost) ∧
      w.sink.text ≠ full.sink.text := by
  obtain ⟨calls, w, hdriven, hpaths, -, hlost⟩ := exists_driven_refusedTwice
  obtain ⟨hcurrent, hdirectories, -, hfull, htext, -⟩ :=
    (driven_eq_counted .empty [5, 7] refusedTwice).2 calls w hdriven
  refine ⟨calls, w, hdriven, ?_, ?_, hfull, ?_⟩
  · rw [hcurrent]
    decide +kernel
  · rw [Writer.paths, ← hdirectories]
    exact hpaths
  · intro hsame
    have hnone : calls.flatMap Call.lost = [] := List.flatMap_eq_nil_iff.2 (htext.1 hsame)
    rw [hnone] at hlost
    cases hlost

/-- On a sink that refuses writes the driver need not come to the text and the directories that the same
operations leave on a sink that takes everything. -/
theorem exists_driven_ne_same :
    let same := (runOperations .empty refusedTwice (Writer.new .willing)).2
    ∃ calls w, Driven .empty refusedTwice (refusingWriter [5, 7]) calls w ∧
      w.sink.text ≠ same.sink.text ∧ w.paths ≠ same.paths := by
  intro same
  obtain ⟨calls, w, hdriven, hpaths, hstored, -⟩ := exists_driven_refusedTwice
  refine ⟨calls, w, hdriven, ?_, ?_⟩
  · rw [Sink.text, hstored]
    decide +kernel
  · have hsame : same.paths = ["a", "c"] := by decide +kernel
    rw [hpaths, hsame]
    decide

end Script

end StarlarkMacro
