import StarlarkMacro.Proofs.Identifier
import StarlarkMacro.Proofs.Literal.Encoding
import StarlarkMacro.Proofs.Literal.Readable
import StarlarkMacro.Proofs.Writer.Reachable

/-!
# A line tells its call

The line of a command holds the name that the command is used under and the texts of its arguments' data,
so two commands with one line have one name and arguments with the same data. Neither the state of the
writer nor its sink plays a part in it, and nothing in a text of an argument can change the call around it.
-/

namespace StarlarkMacro

namespace Writer

open Identifier (isNameChar)

/-- What follows the name of the method in a call whose arguments have those data. -/
def argumentsText (ds : List Datum) : List Char :=
  '(' :: contextName ++ Datum.moreText ds ++ [')']

theorem callStatement_texts (method : List Char) (ds : List Datum) :
    callStatement method (ds.map Datum.text) = contextName ++ '.' :: method ++ argumentsText ds := by
  rw [callStatement, Datum.intercalate_cons, ← Datum.moreText_eq, argumentsText]
  simp only [List.cons_append, List.append_assoc]

/-- The data of the arguments are in their literals. -/
theorem denotesAll_of_argumentLiterals {g : Graph} {arguments : List Value} {i : Nat}
    {literals : List (List Char)} (h : argumentLiterals g i arguments = .ok literals)
    (hplain : ∀ v ∈ arguments, v.Plain g) :
    ∃ ds, DenotesAll g arguments ds ∧ literals = ds.map Datum.text := by
  induction arguments generalizing i literals with
  | nil =>
    cases h
    exact ⟨[], .nil, rfl⟩
  | cons v vs ih =>
    obtain ⟨literal, hliteral, h⟩ := Literal.exists_of_bind_eq_ok h
    obtain ⟨rest, hrest, h⟩ := Literal.exists_of_bind_eq_ok h
    cases h
    obtain ⟨d, hd, rfl⟩ := Literal.denotes_of_marshal (Literal.eq_ok_of_mapError_eq_ok hliteral)
      (hplain v (by simp))
    obtain ⟨ds, hds, rfl⟩ := ih hrest fun w hw ↦ hplain w (by simp [hw])
    exact ⟨d :: ds, .cons hd hds, rfl⟩

/-- A statement of a call tells its method and the data of its arguments. -/
theorem callStatement_injective {method method' : List Char} {ds ds' : List Datum}
    (hmethod : ∀ c ∈ method, isNameChar c = true) (hmethod' : ∀ c ∈ method', isNameChar c = true)
    (h : callStatement method (ds.map Datum.text) = callStatement method' (ds'.map Datum.text)) :
    method = method' ∧ ds = ds' := by
  have hopen (ds : List Datum) : Text.StartsOutside isNameChar (argumentsText ds) :=
    .cons (by decide)
  rw [callStatement_texts, callStatement_texts, List.append_assoc, List.append_assoc] at h
  obtain ⟨hname, harguments⟩ := Text.word_append_inj hmethod (hopen ds) hmethod' (hopen ds')
    (List.cons.inj (List.append_cancel_left h)).2
  have hclosing : Datum.Closes [')'] := .bracket (.inr (.inl rfl)) []
  simp only [argumentsText, List.cons_append, List.append_assoc, List.cons.injEq, true_and] at harguments
  obtain ⟨hds, -⟩ := Datum.moreText_append_inj hclosing hclosing (List.append_cancel_left harguments)
  exact ⟨hname, hds⟩

theorem statementLine_injective {statement statement' : List Char}
    (h : statementLine statement = statementLine statement') : statement = statement' := by
  simpa [statementLine] using h

/-- A command that succeeds stores its line last. -/
theorem exists_line_of_run_writeCommand {w : Writer} {g : Graph} {name : Value}
    {arguments : List Value} (hindent : w.pending.indent = StatementBuffer.standardIndent)
    (h : ((writeCommand g name arguments).run w).1 = .ok ()) :
    ∃ sanitized literals, Identifier.ofValue? name = some sanitized ∧
      argumentLiterals g 1 arguments = .ok literals ∧
      ((writeCommand g name arguments).run w).2.sink.stored.getLast? =
        some (statementLine (callStatement sanitized literals)) := by
  cases hcurrent : w.current with
  | none =>
    rw [writeCommand, run_bind, run_requireMacro_of_idle w hcurrent] at h
    cases h
  | some current =>
    cases hname : Identifier.ofValue? name with
    | none =>
      rw [run_writeCommand_of_invalid w hcurrent hname] at h
      cases h
    | some sanitized =>
      rw [run_writeCommand_of_valid w hcurrent hname] at h ⊢
      rw [run_bind] at h ⊢
      obtain hrun | ⟨before, line, after, -, -, hrun⟩ := run_writePending w
      · rw [hrun] at h ⊢
        cases hliterals : argumentLiterals g 1 arguments with
        | error e =>
          simp only [hliterals, orRefuse, run_bind, run_refuse] at h
          cases h
        | ok literals =>
          refine ⟨sanitized, literals, rfl, rfl, ?_⟩
          simp only [hliterals, orRefuse, run_bind, run_pure, run_writeStatement] at h ⊢
          split at h
          · cases h
          · rw [if_neg ‹_›, render_pending w.drained hindent]
            simp only [storing, Sink.stored_storing, List.getLast?_append, List.getLast?_singleton,
              Option.some_or]
      · rw [hrun] at h
        cases h

variable {g g' : Graph} {steps steps' : List Step} {sink sink' : Sink} {name name' : Value}
  {xs ys : List Value}

/-- Two commands that succeed, in any states of two writers, and store one line have one name and
arguments with the same data. -/
theorem data_eq_of_commandLine_eq (hxs : ∀ v ∈ xs, v.Plain g) (hys : ∀ v ∈ ys, v.Plain g')
    (hx : ((writeCommand g name xs).run (Script.run g steps (.new sink)).2).1 = .ok ())
    (hy : ((writeCommand g' name' ys).run (Script.run g' steps' (.new sink')).2).1 = .ok ())
    (hline : ((writeCommand g name xs).run (Script.run g steps (.new sink)).2).2.sink.stored.getLast? =
      ((writeCommand g' name' ys).run
        (Script.run g' steps' (.new sink')).2).2.sink.stored.getLast?) :
    (∃ used, Identifier.ofValue? name = some used ∧ Identifier.ofValue? name' = some used) ∧
      xs.length = ys.length ∧ ∃ ds, DenotesAll g xs ds ∧ DenotesAll g' ys ds := by
  obtain ⟨used, literals, hused, hliterals, hstored⟩ :=
    exists_line_of_run_writeCommand (Script.isSound_run g steps sink).indent hx
  obtain ⟨used', literals', hused', hliterals', hstored'⟩ :=
    exists_line_of_run_writeCommand (Script.isSound_run g' steps' sink').indent hy
  rw [hstored, hstored', Option.some.injEq] at hline
  obtain ⟨ds, hds, rfl⟩ := denotesAll_of_argumentLiterals hliterals hxs
  obtain ⟨es, hes, rfl⟩ := denotesAll_of_argumentLiterals hliterals' hys
  obtain ⟨rfl, rfl⟩ := callStatement_injective (Identifier.isNameChar_of_ofValue? hused)
    (Identifier.isNameChar_of_ofValue? hused') (statementLine_injective hline)
  exact ⟨⟨used, hused, hused'⟩, hds.length_eq.trans hes.length_eq.symm, ds, hds, hes⟩

/-- A shared queue of a number and a text that looks like the end of a call. -/
def sharedQueue : Graph := ⟨[.sequence .deque [.int (-3) true, .text "\x07\"), (1,)" true]]⟩

def queueArguments : List Value := [.node 0, .sequence .namedTuple [.int 7 false]]

def listArguments : List Value :=
  [.sequence .list [.int (-3) false, .text "\x07\"), (1,)" false], .sequence .tuple [.int 7 true]]

/-- A macro is begun and a directory opened. -/
def openedDirectory : List Step :=
  [.operation (.beginMacro (.text "gen" false)) false,
    .operation (.pushDirectory (.text "a" false)) false]

theorem eq_ok_of_isOk {ε : Type} {x : Except ε Unit} (h : x.isOk = true) : x = .ok () := by
  cases x with
  | error e => cases h
  | ok a => rfl

/-- A reserved word and the name that it is used under, a queue and a list, a named tuple and a tuple give
one line, and have the same data. -/
theorem data_eq_of_commandLine_eq_queueArguments :
    (∃ used, Identifier.ofValue? (.text "if" false) = some used ∧
      Identifier.ofValue? (.text "if_" true) = some used) ∧
    queueArguments.length = listArguments.length ∧
      ∃ ds, DenotesAll sharedQueue queueArguments ds ∧ DenotesAll .empty listArguments ds := by
  refine @data_eq_of_commandLine_eq sharedQueue .empty openedDirectory (openedDirectory.take 1)
    .willing .willing _ _ _ _ ?_ ?_ ?_ ?_ ?_
  · intro v hv
    simp only [queueArguments, List.mem_cons, List.not_mem_nil, or_false] at hv
    rcases hv with rfl | rfl
    · refine .node (.sequence fun w hw ↦ ?_)
      simp only [List.mem_cons, List.not_mem_nil, or_false] at hw
      rcases hw with rfl | rfl
      · exact .int _ _
      · exact .text _ _
    · exact .sequence fun w hw ↦ by rw [List.mem_singleton.1 hw]; exact .int _ _
  · intro v hv
    simp only [listArguments, List.mem_cons, List.not_mem_nil, or_false] at hv
    rcases hv with rfl | rfl
    · refine .sequence fun w hw ↦ ?_
      simp only [List.mem_cons, List.not_mem_nil, or_false] at hw
      rcases hw with rfl | rfl
      · exact .int _ _
      · exact .text _ _
    · exact .sequence fun w hw ↦ by rw [List.mem_singleton.1 hw]; exact .int _ _
  · exact eq_ok_of_isOk (by decide +kernel)
  · exact eq_ok_of_isOk (by decide +kernel)
  · decide +kernel

end Writer

end StarlarkMacro
