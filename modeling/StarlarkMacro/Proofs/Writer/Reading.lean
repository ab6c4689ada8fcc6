import StarlarkMacro.Proofs.Identifier
import StarlarkMacro.Proofs.Literal.OneLine
import StarlarkMacro.Proofs.Writer.History
import StarlarkMacro.Proofs.Writer.Matching

/-!
# What the lines of a macro say of its directories

The lines of a macro are lines in its text, and those that push or pop a directory can be told from all others:
no command assigns to the context. So the pushes and pops that are written can be read off the lines, a push
with the path that its literal stands for, and they are those of the macro's events in normal form.
-/

namespace StarlarkMacro

open Source Writer

/-- One line with its end. -/
def IsLine (line : List Char) : Prop :=
  ∃ content, line = content ++ ['\n'] ∧ ∀ c ∈ content, Lexeme.isLineEnd c = false

/-- The line of a directory pushes what its literal stands for. -/
def Directory.IsSpelled (d : Directory) : Prop :=
  ∃ literal, d.line = statementLine (pushStatement literal) ∧
    StringLiteral.value? literal = some d.path

namespace Event

/-- The pushes and pops among some lines, in order. No other of the lines assigns to the context. -/
inductive Reads : List (List Char) → List Event → Prop
  | nil : Reads [] []
  | push {lines : List (List Char)} {events : List Event} (d : Directory) (hd : d.IsSpelled)
      (h : Reads lines events) : Reads (d.line :: lines) (push d :: events)
  | pop {lines : List (List Char)} {events : List Event} (h : Reads lines events) :
      Reads (statementLine popStatement :: lines) (pop :: events)
  | other {lines : List (List Char)} {events : List Event} {line : List Char}
      (hline : ∀ method arguments, line ≠ statementLine (transitionStatement method arguments))
      (h : Reads lines events) : Reads (line :: lines) events

section Lines

/-- The two methods differ in their second letter. -/
theorem pushLine_ne_popLine (literal : List Char) :
    statementLine (pushStatement literal) ≠ statementLine popStatement := by
  have hpush : (statementLine (pushStatement literal))[15]? = some 'u' := rfl
  have hpop : (statementLine popStatement)[15]? = some 'o' := rfl
  intro h
  rw [h, hpop] at hpush
  cases hpush

section

variable (method : List Char) (arguments : List (List Char))

/-- Behind the indentation and the context a transition has a space. -/
theorem transitionLine_getElem?_seven :
    (statementLine (transitionStatement method arguments))[7]? = some ' ' := rfl

/-- Behind the context of a command stands a point. -/
theorem callLine_ne_transitionLine (name : List Char) (literals : List (List Char)) :
    statementLine (callStatement name literals) ≠
      statementLine (transitionStatement method arguments) := by
  have hcall : (statementLine (callStatement name literals))[7]? = some '.' := rfl
  intro h
  rw [h, transitionLine_getElem?_seven] at hcall
  cases hcall

/-- The return line has a letter there. -/
theorem returnLine_ne_transitionLine :
    MacroHistory.returnLine ≠ statementLine (transitionStatement method arguments) := by
  have hreturn : MacroHistory.returnLine[7]? = some 'u' := by decide
  intro h
  rw [h, transitionLine_getElem?_seven] at hreturn
  cases hreturn

theorem header_ne_transitionLine (name : List Char) :
    header name ≠ statementLine (transitionStatement method arguments) := by
  have hheader : (header name)[0]? = some 'd' := rfl
  have hindent : (statementLine (transitionStatement method arguments))[0]? = some ' ' := rfl
  intro h
  rw [h, hindent] at hheader
  cases hheader

end

/-- What surrounds the literal is the same in every push. -/
theorem pushLine_injective {literal literal' : List Char}
    (h : statementLine (pushStatement literal) = statementLine (pushStatement literal')) :
    literal = literal' := by
  have hstatement : pushStatement literal = pushStatement literal' :=
    List.append_cancel_left (List.append_cancel_right h)
  have hcall : callStatement "push_directory".toList [literal] =
      callStatement "push_directory".toList [literal'] := List.append_cancel_left hstatement
  have harguments := List.append_cancel_left (List.append_cancel_right hcall)
  rw [Datum.intercalate_cons, Datum.intercalate_cons] at harguments
  simpa using harguments

end Lines

/-- The line of a push tells its path. -/
theorem eq_of_line_eq {d d' : Directory} (h : d.IsSpelled) (h' : d'.IsSpelled)
    (hline : d.line = d'.line) : d = d' := by
  obtain ⟨literal, hd, hvalue⟩ := h
  obtain ⟨literal', hd', hvalue'⟩ := h'
  rcases d with ⟨path, line⟩
  rcases d' with ⟨path', line'⟩
  obtain rfl : line = line' := hline
  obtain rfl : literal = literal' := pushLine_injective (hd.symm.trans hd')
  obtain rfl : path = path' := Option.some.inj (hvalue.symm.trans hvalue')
  rfl

namespace Reads

variable {lines more : List (List Char)} {events later : List Event}

/-- The lines say one thing only. -/
theorem functional (h : Reads lines events) (h' : Reads lines later) : events = later := by
  induction h generalizing later with
  | nil =>
    cases h'
    rfl
  | @push lines events d hd h ih =>
    have hspelled := hd
    obtain ⟨literal, hline, -⟩ := hd
    generalize hd' : d.line = line at h'
    cases h' with
    | push d' hspelled' h' => rw [eq_of_line_eq hspelled hspelled' hd', ih h']
    | pop h' => exact absurd (hline.symm.trans hd') (pushLine_ne_popLine literal)
    | other hother h' => exact absurd (hd'.symm.trans hline) (hother _ _)
  | @pop lines events h ih =>
    generalize hpop : statementLine popStatement = line at h'
    cases h' with
    | push d' hspelled h' =>
      obtain ⟨literal', hline', -⟩ := hspelled
      exact absurd (hpop.trans hline').symm (pushLine_ne_popLine literal')
    | pop h' => rw [ih h']
    | other hother h' => exact absurd hpop.symm (hother _ _)
  | @other lines events line hline h ih =>
    generalize hother : line = line' at h'
    cases h' with
    | push d' hspelled h' =>
      obtain ⟨literal', hline', -⟩ := hspelled
      exact absurd (hother.trans hline') (hline _ _)
    | pop h' => exact absurd hother (hline _ _)
    | other _ h' => exact ih h'

theorem append (h : Reads lines events) (hmore : Reads more later) :
    Reads (lines ++ more) (events ++ later) := by
  induction h with
  | nil => exact hmore
  | push d hd _ ih => exact .push d hd ih
  | pop _ ih => exact .pop ih
  | other hline _ ih => exact .other hline ih

end Reads

/-! ## The lines of events -/

/-- The line of an event is one line, and that of a push spells its path. -/
def IsLegible : Event → Prop
  | push d => d.IsSpelled ∧ IsLine d.line
  | command method literals => IsLine (statementLine (callStatement method literals))
  | pop | mark => True

variable {events : List Event}

/-- Commands and marks are passed over, so what is read are the pushes and pops that were written. -/
theorem reads_lines (h : ∀ e ∈ events, e.IsLegible) :
    Reads (lines events) (events.filter isTransition) := by
  induction events with
  | nil => exact .nil
  | cons e events ih =>
    obtain ⟨he, hevents⟩ := List.forall_mem_cons.1 h
    cases e with
    | push d => exact .push d he.1 (ih hevents)
    | pop => exact .pop (ih hevents)
    | command method literals => exact .other (callLine_ne_transitionLine · · method literals) (ih hevents)
    | mark => exact ih hevents

theorem isLine_statementLine {statement : List Char}
    (h : ∀ c ∈ statement, Lexeme.isLineEnd c = false) : IsLine (statementLine statement) := by
  have hindent : ∀ c ∈ StatementBuffer.standardIndent, Lexeme.isLineEnd c = false :=
    Text.isLineEnd_of_all (by decide)
  exact ⟨StatementBuffer.standardIndent ++ statement, rfl, List.forall_mem_append.2 ⟨hindent, h⟩⟩

theorem isLine_of_mem_lines (h : ∀ e ∈ events, e.IsLegible) : ∀ line ∈ lines events, IsLine line := by
  intro line hline
  obtain ⟨e, he, hline⟩ := List.mem_filterMap.1 hline
  have hlegible := h e he
  cases e with
  | push d =>
    cases hline
    exact hlegible.2
  | pop =>
    cases hline
    exact isLine_statementLine (Text.isLineEnd_of_all (by decide))
  | command method literals =>
    cases hline
    exact hlegible
  | mark => cases hline

/-! ## Calls without texts of their own making -/

section Calls

variable {g : Graph}

theorem isLineEnd_of_mem_callStatement {method : List Char} {literals : List (List Char)}
    (hmethod : ∀ c ∈ method, Lexeme.isLineEnd c = false)
    (hliterals : ∀ literal ∈ literals, ∀ c ∈ literal, Lexeme.isLineEnd c = false) :
    ∀ c ∈ callStatement method literals, Lexeme.isLineEnd c = false := by
  have hcontext : ∀ c ∈ contextName, Lexeme.isLineEnd c = false := Text.isLineEnd_of_all (by decide)
  have hcomma : ∀ c ∈ [',', ' '], Lexeme.isLineEnd c = false := Text.isLineEnd_of_all (by decide)
  have hend : ∀ c ∈ [')'], Lexeme.isLineEnd c = false := Text.isLineEnd_of_all (by decide)
  have harguments : ∀ c ∈ [',', ' '].intercalate (contextName :: literals), Lexeme.isLineEnd c = false :=
    Text.forall_mem_intercalate hcomma (List.forall_mem_cons.2 ⟨hcontext, hliterals⟩)
  rw [callStatement, List.forall_mem_append, List.forall_mem_append, List.forall_mem_append,
    List.forall_mem_cons, List.forall_mem_cons]
  exact ⟨⟨⟨hcontext, rfl, hmethod⟩, rfl, harguments⟩, hend⟩

/-- A good path that is a plain text is quoted. -/
theorem isLegible_push {path : Value} (hbare : path.IsBare g) {literal : Text × List Char}
    (h : pathLiteral g path = .ok literal) : (push (directoryOf literal)).IsLegible := by
  cases path with
  | text t derived =>
    obtain ⟨cs, hcs, rfl⟩ := Literal.exists_of_map_eq_ok h
    have hline := Literal.isLineEnd_of_mem_marshal hbare hcs
    obtain ⟨quoted, hencode, hfinish⟩ := Literal.exists_of_bind_eq_ok hcs
    cases hencode
    have hquoted := Literal.eq_ofChars_of_finish hfinish
    have hclean : t.IsClean := Literal.isClean_quoted_iff.1 (hquoted ▸ Text.isClean_ofChars cs)
    obtain ⟨characters, rfl⟩ := hclean.exists_eq_ofChars
    rw [Text.quoted_ofChars] at hquoted
    obtain rfl := Text.ofChars_injective hquoted
    refine ⟨⟨_, rfl, Text.Quoted.value?_encode characters⟩, isLine_statementLine ?_⟩
    have hmethod : ∀ c ∈ "push_directory".toList, Lexeme.isLineEnd c = false :=
      Text.isLineEnd_of_all (by decide)
    have hassigned : ∀ c ∈ contextName ++ [' ', '=', ' '], Lexeme.isLineEnd c = false :=
      Text.isLineEnd_of_all (by decide)
    have hcall := isLineEnd_of_mem_callStatement hmethod (List.forall_mem_singleton.2 hline)
    exact List.forall_mem_append.2 ⟨hassigned, hcall⟩
  | labelled => cases hbare.makesText_eq
  | _ => cases h

/-- No literal of a bare value has a line end, since texts escape theirs. -/
theorem isLineEnd_of_mem_argumentLiterals {arguments : List Value} {i : Nat}
    {literals : List (List Char)} (h : argumentLiterals g i arguments = .ok literals)
    (hbare : ∀ v ∈ arguments, v.IsBare g) :
    ∀ literal ∈ literals, ∀ c ∈ literal, Lexeme.isLineEnd c = false := by
  induction arguments generalizing i literals with
  | nil =>
    cases h
    simp
  | cons v vs ih =>
    obtain ⟨literal, hliteral, h⟩ := Literal.exists_of_bind_eq_ok h
    obtain ⟨rest, hrest, h⟩ := Literal.exists_of_bind_eq_ok h
    cases h
    obtain ⟨hv, hvs⟩ := List.forall_mem_cons.1 hbare
    exact List.forall_mem_cons.2 ⟨Literal.isLineEnd_of_mem_marshal hv
      (Literal.eq_ok_of_mapError_eq_ok hliteral), ih hrest hvs⟩

theorem isLineEnd_of_mem_used {name : Value} {used : List Char}
    (hname : Identifier.ofValue? name = some used) : ∀ c ∈ used, Lexeme.isLineEnd c = false := by
  intro c hc
  exact Literal.isLineEnd_of_holds ⟨rfl, rfl⟩ (Identifier.isNameChar_of_ofValue? hname c hc)

/-- A command is one line that is no transition, whatever its arguments. -/
theorem isLegible_command {name : Value} {method : List Char}
    (hname : Identifier.ofValue? name = some method) {arguments : List Value}
    (hbare : ∀ v ∈ arguments, v.IsBare g) {literals : List (List Char)}
    (h : argumentLiterals g 1 arguments = .ok literals) : (command method literals).IsLegible := by
  apply isLine_statementLine
  exact isLineEnd_of_mem_callStatement (isLineEnd_of_mem_used hname)
    (isLineEnd_of_mem_argumentLiterals h hbare)

theorem isLine_header {name : Value} {used : List Char} (hname : Identifier.ofValue? name = some used) :
    IsLine (header used) := by
  refine ⟨"def ".toList ++ used ++ '(' :: contextName ++ [')', ':'], ?_, ?_⟩
  · simp [header]
  · rw [List.forall_mem_append, List.forall_mem_append, List.forall_mem_append]
    exact ⟨⟨⟨Text.isLineEnd_of_all (by decide), isLineEnd_of_mem_used hname⟩,
      Text.isLineEnd_of_all (by decide)⟩, Text.isLineEnd_of_all (by decide)⟩

end Calls

end Event

/-- Neither the path nor an argument of a call holds a text of its own making. -/
def Operation.IsBare (g : Graph) : Operation → Prop
  | .pushDirectory path => path.IsBare g
  | .writeCommand _ arguments => ∀ v ∈ arguments, v.IsBare g
  | _ => True

end StarlarkMacro
