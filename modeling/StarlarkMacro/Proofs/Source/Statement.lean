import StarlarkMacro.Proofs.Source.Call

/-!
# Reading statements

Lines that assign a call to a name, that call, and that return a name, and the functions and texts that are
made of such lines. A line is read as whatever its first reader in turn takes, so for each line all readers
before its own are shown to fail.
-/

namespace StarlarkMacro.Source.Reader

variable {α : Type} {kinds rest : List TokenKind} {Q : Operand → Prop}

/-! ## Whole expressions -/

/-- The fuel of a phrase is set by what is left of the text, so a statement is read with enough of it. -/
theorem reads_whole {p : Inner → Reader α} {P : α → Prop}
    (h : Reads (p (phrase ((kinds ++ rest).length + 1))) kinds rest P) : Reads (whole p) kinds rest P :=
  reads_remaining.peekThen fun n hn ↦ by
    subst hn
    exact h

theorem fails_whole {p : Inner → Reader α} (h : Fails (p (phrase (rest.length + 1))) rest) :
    Fails (whole p) rest :=
  reads_remaining.peekFails fun n hn ↦ by
    subst hn
    exact h

/-- One item without a comma behind it stands for itself. -/
theorem reads_listed {item : Reader Operand} {starts : TokenKind → Bool} (h : Reads item kinds rest Q)
    (hne : kinds ≠ []) (hrest : rest.head? ≠ some (.symbol .comma)) :
    Reads (do return listed (← commaList item starts)) kinds rest Q := by
  have hlist : Reads (commaList item starts) kinds rest fun list ↦ ∃ e, list = ([e], false) ∧ Q e := by
    refine reads_remaining.peekThen fun n hn ↦ ?_
    have hlength := List.length_pos_of_ne_nil hne
    rw [List.length_append] at hn
    obtain ⟨n, rfl⟩ := Nat.exists_eq_succ_of_ne_zero (show n ≠ 0 by omega)
    refine h.last fun e he ↦ ?_
    exact .unless (reads_acceptSymbol_of_ne hrest) (.pure ⟨e, rfl, he⟩)
  refine hlist.last fun list hlist ↦ ?_
  obtain ⟨e, rfl, he⟩ := hlist
  exact .pure he

section Expressions

variable (hkinds : Begins opensOperand kinds) (hrest : Stops rest)
  (hcomma : rest.head? ≠ some (.symbol .comma))
  (h : Reads (expression (phrase (kinds ++ rest).length)) kinds rest Q)
include hkinds hcomma h

theorem reads_starExpressions :
    Reads (starExpressions (phrase ((kinds ++ rest).length + 1))) kinds rest Q := by
  refine reads_listed (.unless (reads_acceptSymbol_of_ne (hkinds.head?_ne rfl)) h) ?_ hcomma
  obtain ⟨k, ks, rfl, -⟩ := hkinds
  exact List.cons_ne_nil k ks

/-- An expression by itself is a list of one, without a comma behind it. -/
theorem reads_wholeExpressions : Reads wholeExpressions kinds rest Q :=
  reads_whole (reads_starExpressions hkinds hcomma h)

theorem reads_rightHandSide : Reads rightHandSide kinds rest Q :=
  reads_whole (.unless (reads_nextIs_of_ne (hkinds.head?_ne rfl))
    (reads_starExpressions hkinds hcomma h))

end Expressions

/-! ## Simple statements -/

/-- No target of an assignment begins the tokens. -/
structure Untargeted (kinds : List TokenKind) : Prop where
  unbracketed : Unbracketed kinds
  fails_plainTarget : ∀ n, kinds.length ≤ n → Fails (plainTarget (phrase n)) kinds

namespace Untargeted

variable (h : Untargeted rest)
include h

/-- A call is no target, so no statement that begins with one is an assignment. -/
theorem fails_wholeTargets : Fails wholeTargets rest :=
  fails_whole (fails_targets h.unbracketed (h.fails_plainTarget _ (Nat.le_refl _)))

theorem fails_assignment : Fails assignment rest := h.fails_wholeTargets.bind.bind.bind

/-- Neither is it annotated nor an augmented assignment: both begin with a single target. -/
theorem fails_annotatedTarget : Fails annotatedTarget rest :=
  (fails_whole (h.fails_plainTarget _ (Nat.le_succ _))).bind

theorem fails_augmentedAssignment : Fails augmentedAssignment rest := by
  have hsingle : Fails (single (phrase rest.length)) rest :=
    fails_single h.unbracketed (h.fails_plainTarget _ (Nat.le_refl _))
  exact (fails_whole (p := fun g ↦ g .single) hsingle).bind

end Untargeted

/-- What begins with no target is an expression. -/
theorem reads_expressionStatement (h : Untargeted (kinds ++ rest))
    (hexpressions : Reads wholeExpressions kinds rest Q) :
    Reads assignmentOrExpression kinds rest fun s ↦ ∃ e, Q e ∧ s = .expression e.tree :=
  h.fails_assignment.orElseReads (h.fails_annotatedTarget.orElseReads
    (h.fails_augmentedAssignment.orElseReads (hexpressions.last fun e he ↦ .pure ⟨e, he, rfl⟩)))

/-- One target, since no second equals sign follows the value. -/
theorem reads_assignment {name : List Char} (hname : Lexeme.isIdentifier name = true)
    (h : Untargeted (kinds ++ rest)) (hvalue : Reads rightHandSide kinds rest Q)
    (hrest : rest.head? ≠ some (.symbol .equal)) :
    Reads assignmentOrExpression (.name name :: .symbol .equal :: kinds) rest fun s ↦
      ∃ e, Q e ∧ s = .assign [.name name] e.tree := by
  have htargets : Reads wholeTargets [.name name] (.symbol .equal :: (kinds ++ rest))
      (·.tree = .name name) :=
    reads_whole (reads_listed (reads_target_name hname ⟨_, _, rfl, rfl⟩) (by simp) (by simp))
  have hone : Reads (do
      let t ← wholeTargets
      symbol .equal
      return t.tree) [.name name, .symbol .equal] (kinds ++ rest) (· = .name name) :=
    htargets.cons fun t ht ↦ (reads_symbol .equal).last fun _ _ ↦ .pure ht
  have hmany := reads_many1_one hone h.fails_wholeTargets.bind
  refine Reads.orElse (Reads.bind hmany fun targets htargets ↦ ?_)
  obtain ⟨target, rfl, rfl⟩ := htargets
  refine hvalue.last fun e he ↦ (reads_nextIs_of_ne hrest).last fun again hagain ↦ ?_
  subst hagain
  exact .pure ⟨e, he, rfl⟩

/-- A word that sets nothing apart stands in front of what it returns with a gap, since no such pair of
tokens touches. -/
theorem reads_returnStatement (hkinds : Begins startsExpression kinds)
    (h : Reads wholeExpressions kinds rest Q) :
    Reads returnStatement (.keyword .returnWord :: kinds) rest fun s ↦
      ∃ e, Q e ∧ s = .ret (some e.tree) := by
  intro ts us hts hus hapart last flaw revisions
  obtain ⟨word, ts, rfl, hword, hts⟩ := List.map_eq_cons_iff.1 hts
  obtain ⟨k, ks, rfl, hk⟩ := hkinds
  obtain ⟨first, ts, rfl, hfirst, hmore⟩ := List.map_eq_cons_iff.1 hts
  obtain ⟨hgap, hapart⟩ := List.isChain_cons_cons.1 hapart
  obtain ⟨e, last', he, hrun⟩ := h (first :: ts) us hts hus hapart word.stop flaw revisions
  refine ⟨.ret (some e.tree), last', ⟨e, he, rfl⟩, ?_⟩
  have hkeyword : (keyword .returnWord).run ⟨word :: first :: (ts ++ us), last, flaw, revisions⟩ =
      some ((), ⟨first :: (ts ++ us), word.stop, flaw, revisions⟩) := by
    have hnext : next.run ⟨word :: first :: (ts ++ us), last, flaw, revisions⟩ =
        some (word.kind, ⟨first :: (ts ++ us), word.stop, flaw, revisions⟩) := rfl
    rw [keyword, token, StateT.run_bind, hnext, Option.bind_eq_bind, Option.bind_some, if_pos hword]
    rfl
  have htouching : touching.run ⟨first :: (ts ++ us), word.stop, flaw, revisions⟩ =
      some (false, ⟨first :: (ts ++ us), word.stop, flaw, revisions⟩) :=
    congrArg (fun b ↦ some (b, _)) (decide_eq_false (hgap hword))
  have hstarts : (nextStarts startsExpression).run ⟨first :: (ts ++ us), word.stop, flaw, revisions⟩ =
      some (true, ⟨first :: (ts ++ us), word.stop, flaw, revisions⟩) :=
    congrArg (fun b ↦ some (b, _)) (show startsExpression first.kind = true by rw [hfirst, hk])
  rw [List.cons_append] at hrun
  rw [returnStatement, StateT.run_bind, List.cons_append, List.cons_append, hkeyword,
    Option.bind_eq_bind, Option.bind_some, StateT.run_bind, hstarts, Option.bind_eq_bind,
    Option.bind_some, if_pos rfl, behindWord, bind_assoc, StateT.run_bind, htouching,
    Option.bind_eq_bind, Option.bind_some, bind_assoc, StateT.run_bind, hrun]
  rfl

theorem reads_nextIsTypeAlias_of_ne (h : rest.head? ≠ some (.name "type".toList)) :
    Reads nextIsTypeAlias [] rest (· = false) :=
  reads_peekSecond.last fun _ _ ↦ (reads_nextIs_of_ne h).last fun _ hfalse ↦
    .pure (by rw [hfalse, Bool.false_and])

theorem reads_nextIsLazyImport_of_ne (h : rest.head? ≠ some (.name "lazy".toList)) :
    Reads nextIsLazyImport [] rest (· = false) :=
  reads_peekSecond.last fun _ _ ↦ (reads_nextIs_of_ne h).last fun _ hfalse ↦
    .pure (by rw [hfalse, Bool.false_and])

/-- A name that is no keyword in any place where a statement begins. -/
def IsPlainName (name : List Char) : Prop := name ∉ ["type".toList, "lazy".toList, "match".toList]

section Line

variable {P : SmallStatement → Prop}

/-- A name that is no soft keyword leads past all statements with a keyword of their own. -/
theorem reads_smallStatement_name {name : List Char} (hname : IsPlainName name)
    (h : Reads assignmentOrExpression (.name name :: kinds) rest P) :
    Reads smallStatement (.name name :: kinds) rest P := by
  have hne (word : List Char) (hword : word ∈ ["type".toList, "lazy".toList, "match".toList]) :
      ((.name name :: kinds) ++ rest).head? ≠ some (.name word) := by
    rintro ⟨⟩
    exact hname hword
  refine reads_peek.peekThen fun k hk ↦ ?_
  subst hk
  exact .unless (reads_nextIsTypeAlias_of_ne (hne _ (by simp)))
    (.unless (reads_nextIsLazyImport_of_ne (hne _ (by simp))) h)

theorem reads_smallStatement_return
    (h : Reads returnStatement (.keyword .returnWord :: kinds) rest P) :
    Reads smallStatement (.keyword .returnWord :: kinds) rest P :=
  reads_peek.peekThen fun k hk ↦ by
    subst hk
    exact h

/-- One small statement fills the line if the line ends behind it. -/
theorem reads_smallStatements (h : Reads smallStatement kinds (.newline :: rest) P) :
    Reads smallStatements (kinds ++ [.newline]) rest fun parts ↦ ∃ part, parts = [part] ∧ P part := by
  refine h.bind fun part hpart ↦ reads_remaining.peekThen fun n hn ↦ ?_
  subst hn
  have hmore : Reads (moreSmallStatements ([TokenKind.newline] ++ rest).length) []
      ([.newline] ++ rest) (· = []) :=
    .unless (reads_acceptSymbol_of_ne (by simp)) (.pure rfl)
  refine hmore.peekThen fun more hmore ↦ (reads_token .newline).last fun _ _ ↦ .pure ⟨part, ?_, hpart⟩
  rw [hmore]

/-- Looking ahead gives back every token, whatever was read. -/
theorem reads_ahead (p : Reader α) : Reads (ahead p) [] rest fun _ ↦ True := by
  intro ts us hts _ _ last flaw revisions
  obtain rfl := List.map_eq_nil_iff.1 hts
  exact ⟨_, last, trivial, rfl⟩

/-- What begins no compound statement is a line. -/
theorem reads_anyStatement_line {statement : Reader Statement} {k : TokenKind}
    (hk : (∃ name, k = .name name ∧ IsPlainName name) ∨ k = .keyword .returnWord)
    (h : Reads smallStatement (k :: kinds) (.newline :: rest) P) :
    Reads (anyStatement statement) (k :: kinds ++ [.newline]) rest fun s ↦
      ∃ start part, s = .line start [part] ∧ P part := by
  refine reads_position.peekThen fun start _ ↦ reads_peek.peekThen fun next hnext ↦ ?_
  have hline : Reads (do return .line start (← smallStatements)) (k :: kinds ++ [.newline]) rest
      fun s ↦ ∃ start part, s = Statement.line start [part] ∧ P part := by
    refine (reads_smallStatements h).last fun parts hparts ↦ ?_
    obtain ⟨part, rfl, hpart⟩ := hparts
    exact .pure ⟨start, part, rfl, hpart⟩
  have hmatch : ((k :: kinds ++ [TokenKind.newline]) ++ rest).head? ≠ some (.name "match".toList) := by
    obtain ⟨name, rfl, hname⟩ | rfl := hk
    · rintro ⟨⟩
      exact hname (by simp)
    · rintro ⟨⟩
  have hdefault : Reads (do
      if (← nextIs (.name "match".toList)) && (← nextIsMatch) then matchStatement statement start
      else return .line start (← smallStatements)) (k :: kinds ++ [.newline]) rest
      fun s ↦ ∃ start part, s = Statement.line start [part] ∧ P part := by
    refine (reads_nextIs_of_ne hmatch).peekThen fun isMatch hfalse ↦
      (reads_ahead _).peekThen fun ahead _ ↦ ?_
    subst hfalse
    exact hline
  subst hnext
  obtain ⟨name, rfl, -⟩ | rfl := hk
  · exact hdefault
  · exact hdefault

end Line

/-! ## The end of a block -/

section Dedent

variable (indentation : List Char) (rest : List TokenKind)

theorem fails_atom_dedent (g : Inner) : Fails (atom g) (.dedent indentation :: rest) :=
  reads_peek.peekFails fun k hk ↦ by
    subst hk
    exact fails_failure

theorem fails_primary_dedent (g : Inner) : Fails (primary g) (.dedent indentation :: rest) :=
  (fails_atom_dedent indentation rest g).bind

theorem untargeted_dedent : Untargeted (.dedent indentation :: rest) where
  unbracketed := by simp [Unbracketed]
  fails_plainTarget n _ :=
    reads_nextIsName.peekFails fun _ _ ↦ (fails_primary_dedent indentation rest _).bind

theorem fails_expression_dedent (g : Inner) :
    Fails (expression g) (.dedent indentation :: rest) := by
  have hne (k : Keyword) : (.dedent indentation :: rest).head? ≠ some (TokenKind.keyword k) := by simp
  have hsign : Fails sign (.dedent indentation :: rest) :=
    (reads_next (.dedent indentation)).failsBind fun _ hk ↦ by
      subst hk
      exact fails_failure
  have hoperand : Fails (operand g) (.dedent indentation :: rest) :=
    (reads_many_nil hsign).peekFails fun _ _ ↦
      Fails.bind (.unless (reads_acceptKeyword_of_ne (hne _))
        (fails_primary_dedent indentation rest g).bind)
  have hnegation (n : Nat) : Fails (negationUpTo g n) (.dedent indentation :: rest) := by
    cases n with
    | zero => exact fails_failure
    | succ n => exact .unless (reads_acceptKeyword_of_ne (hne _)) hoperand.bind.bind
  have hdisjunction : Fails (disjunction g) (.dedent indentation :: rest) :=
    Fails.bind (reads_remaining.peekFails fun n _ ↦ hnegation n)
  exact .unless (reads_nextIs_of_ne (hne _)) hdisjunction.bind

theorem fails_wholeExpressions_dedent : Fails wholeExpressions (.dedent indentation :: rest) := by
  refine fails_whole (Fails.bind (reads_remaining.peekFails fun n _ ↦ ?_))
  cases n with
  | zero => exact fails_failure
  | succ n =>
    exact Fails.bind (.unless (reads_acceptSymbol_of_ne (by simp))
      (fails_expression_dedent indentation rest _))

/-- No statement begins where a block ends. -/
theorem fails_anyStatement_dedent (statement : Reader Statement) :
    Fails (anyStatement statement) (.dedent indentation :: rest) := by
  have huntargeted := untargeted_dedent indentation rest
  have hassignment : Fails assignmentOrExpression (.dedent indentation :: rest) :=
    huntargeted.fails_assignment.orElse (huntargeted.fails_annotatedTarget.orElse
      (huntargeted.fails_augmentedAssignment.orElse
        (fails_wholeExpressions_dedent indentation rest).bind))
  have hne (word : List Char) : (.dedent indentation :: rest).head? ≠ some (TokenKind.name word) := by
    simp
  have hsmall : Fails smallStatement (.dedent indentation :: rest) := by
    refine reads_peek.peekFails fun k hk ↦ ?_
    subst hk
    exact .unless (reads_nextIsTypeAlias_of_ne (hne _))
      (.unless (reads_nextIsLazyImport_of_ne (hne _)) hassignment)
  refine reads_position.peekFails fun start _ ↦ reads_peek.peekFails fun next hnext ↦ ?_
  subst hnext
  refine (reads_nextIs_of_ne (hne _)).peekFails fun isMatch hfalse ↦
    (reads_ahead _).peekFails fun ahead _ ↦ ?_
  subst hfalse
  exact hsmall.bind.bind

end Dedent

/-! ## Functions -/

section Function

variable {statement : Reader Statement} {ι : Type} {kinds : ι → List TokenKind}
  {P : ι → Statement → Prop} {lines : List ι} {rest : List TokenKind}

/-- A colon and an indented block of lines, of which there must be one. -/
def blockKinds (indentation : List Char) (kinds : ι → List TokenKind) (lines : List ι) :
    List TokenKind :=
  .symbol .colon :: .newline :: .indent indentation ::
    (lines.flatMap kinds ++ [.dedent indentation])

/-- A block is a line end, an indentation and statements up to the dedent, where no further statement
begins. -/
theorem reads_block (indentation : List Char) (hne : lines ≠ [])
    (h : ∀ l ∈ lines, ∀ rest, Reads statement (kinds l) rest (P l))
    (hkinds : ∀ l ∈ lines, kinds l ≠ [])
    (hend : Fails statement (.dedent indentation :: rest)) :
    Reads (block statement) (blockKinds indentation kinds lines) rest fun b ↦
      b.1 = true ∧ List.Forall₂ P lines b.2 := by
  have hopen : Reads openBlock [.indent indentation]
      (lines.flatMap kinds ++ [.dedent indentation] ++ rest) fun _ ↦ True :=
    (reads_next _).last fun k hk ↦ by
      subst hk
      exact .pure trivial
  obtain ⟨l, ls, rfl⟩ := List.exists_cons_of_ne_nil hne
  refine (reads_symbol .colon).cons fun _ _ ↦ .when (reads_nextIs_of_eq rfl) ?_
  refine (reads_token .newline).cons fun _ _ ↦ hopen.cons fun _ _ ↦ ?_
  refine (reads_many1 hend l ls h fun y hy ↦ hkinds y (by simp [hy])).bind fun body hbody ↦ ?_
  refine (reads_next _).last fun k hk ↦ ?_
  subst hk
  exact .pure ⟨rfl, hbody⟩

/-- The head of a function that takes one parameter and nothing else. -/
def functionHead (name parameter : List Char) : FunctionHead :=
  ⟨name, false, 0, false, ⟨[], [⟨parameter, false, false⟩], .absent, [], none⟩, false⟩

theorem reads_parameters_one {expression starExpression : Reader Operand} {parameter : List Char}
    (hparameter : Lexeme.isIdentifier parameter = true) :
    Reads (parameters true expression starExpression) [.name parameter] (.symbol .rightParen :: rest)
      (· = ⟨[], [⟨parameter, false, false⟩], .absent, [], none⟩) := by
  have hitem : Reads (parameterItem true expression starExpression) [.name parameter]
      (.symbol .rightParen :: rest) (· = .plain ⟨parameter, false, false⟩) := by
    refine .unless (reads_acceptSymbol_of_ne (by simp)) (.unless (reads_acceptSymbol_of_ne (by simp))
      (.unless (reads_acceptSymbol_of_ne (by simp)) ?_))
    refine (reads_name hparameter).last fun text htext ↦ ?_
    refine (reads_acceptWith_of_ne expression (by simp)).last fun annotated hannotated ↦ ?_
    refine (reads_acceptWith_of_ne expression (by simp)).last fun hasDefault hdefault ↦ ?_
    subst htext hannotated hdefault
    exact .pure rfl
  have hlist : Reads (commaList (parameterItem true expression starExpression) startsParameter)
      [.name parameter] (.symbol .rightParen :: rest)
      (· = ([.plain ⟨parameter, false, false⟩], false)) :=
    reads_remaining.peekThen fun n hn ↦ by
      subst hn
      refine hitem.last fun item hitem ↦ .unless (reads_acceptSymbol_of_ne (by simp)) (.pure ?_)
      rw [hitem]
  refine reads_peek.peekThen fun next hnext ↦ ?_
  subst hnext
  refine hlist.last fun list hlist ↦ ?_
  subst hlist
  exact .pure rfl

/-- A function with one parameter and no decorator, its body an indented block. -/
theorem reads_functionDefinition {name parameter : List Char}
    (hname : Lexeme.isIdentifier name = true) (hparameter : Lexeme.isIdentifier parameter = true)
    (start : Nat) (indentation : List Char)
    (hblock : Reads (block statement) (blockKinds indentation kinds lines) rest fun b ↦
      b.1 = true ∧ List.Forall₂ P lines b.2) :
    Reads (functionDefinition statement start 0 false)
      (.keyword .defWord :: .name name :: .symbol .leftParen :: .name parameter ::
        .symbol .rightParen :: blockKinds indentation kinds lines) rest
      fun s ↦ ∃ body, s = .function start (functionHead name parameter) true body ∧
        List.Forall₂ P lines body := by
  refine (reads_keyword .defWord).cons fun _ _ ↦ (reads_name hname).cons fun text htext ↦ ?_
  subst htext
  have htypes : Reads typeParameters [] (.symbol .leftParen :: .name parameter ::
      .symbol .rightParen :: blockKinds indentation kinds lines ++ rest) (· = false) :=
    .unless (reads_acceptSymbol_of_ne (by simp)) (.pure rfl)
  refine htypes.peekThen fun hasTypeParameters hfalse ↦ ?_
  subst hfalse
  refine (reads_symbol .leftParen).cons fun _ _ ↦ ?_
  refine Reads.cons (reads_whole (reads_parameters_one hparameter)) fun ps hps ↦ ?_
  subst hps
  refine (reads_symbol .rightParen).cons fun _ _ ↦ ?_
  refine (reads_acceptWith_of_ne oneExpression (by simp [blockKinds])).peekThen fun hasReturns hfalse ↦ ?_
  subst hfalse
  refine hblock.last fun b hb ↦ ?_
  obtain ⟨indented, body⟩ := b
  obtain ⟨rfl, hbody⟩ := hb
  exact .pure ⟨body, rfl, hbody⟩

theorem reads_anyStatement_function {ks : List TokenKind} {R : Statement → Prop}
    (h : ∀ start, Reads (functionDefinition statement start 0 false) (.keyword .defWord :: ks) rest R) :
    Reads (anyStatement statement) (.keyword .defWord :: ks) rest R :=
  reads_position.peekThen fun start _ ↦ reads_peek.peekThen fun next hnext ↦ by
    subst hnext
    exact h start

end Function

/-! ## Texts -/

section Text

variable {ι : Type} {kinds : ι → List TokenKind} {P : ι → Statement → Prop}

theorem reads_statementWithTokens {ks rest : List TokenKind} {R : Statement → Prop}
    (h : Reads (statementUpTo ((ks ++ rest).length + 1)) ks rest R) :
    Reads statementWithTokens ks rest fun s ↦ R s.1 := by
  intro ts us hts hus hapart last flaw revisions
  have hlength : (ks ++ rest).length = (ts ++ us).length := by simp [← hts, ← hus]
  obtain ⟨s, last', hs, hrun⟩ := h ts us hts hus hapart last flaw revisions
  rw [hlength] at hrun
  refine ⟨(s, (ts ++ us).take ((ts ++ us).length - us.length)), last', hs, ?_⟩
  rw [statementWithTokens, StateT.run_bind, StateT.run_get, Option.pure_def, Option.bind_eq_bind,
    Option.bind_some, StateT.run_bind, hrun]
  rfl

/-- Statements up to the end of the tokens. -/
theorem reads_statementsUpTo (xs : List ι) (hne : ∀ x ∈ xs, kinds x ≠ [])
    (h : ∀ x ∈ xs, ∀ rest, Reads (statementUpTo ((kinds x ++ rest).length + 1)) (kinds x) rest (P x))
    {n : Nat} (hn : xs.length < n) :
    Reads (statementsUpTo n) (xs.flatMap kinds) [] fun list ↦ List.Forall₂ P xs (list.map Prod.fst) := by
  induction xs generalizing n with
  | nil =>
    obtain ⟨n, rfl⟩ := Nat.exists_eq_succ_of_ne_zero (Nat.ne_zero_of_lt hn)
    intro ts us hts hus _ last flaw revisions
    obtain rfl := List.map_eq_nil_iff.1 hts
    obtain rfl := List.map_eq_nil_iff.1 hus
    exact ⟨[], last, .nil, rfl⟩
  | cons x xs ih =>
    obtain ⟨n, rfl⟩ := Nat.exists_eq_succ_of_ne_zero (Nat.ne_zero_of_lt hn)
    have hrest := ih (fun y hy ↦ hne y (by simp [hy])) (fun y hy ↦ h y (by simp [hy]))
      (n := n) (by simpa using hn)
    have hnext : Reads (do
        let s ← statementWithTokens
        return s :: (← statementsUpTo n)) ((x :: xs).flatMap kinds) []
        fun list ↦ List.Forall₂ P (x :: xs) (list.map Prod.fst) :=
      Reads.bind (reads_statementWithTokens (h x (by simp) _)) fun s hs ↦ hrest.last fun list hlist ↦
        .pure (.cons hs hlist)
    intro ts us hts hus hapart last flaw revisions
    obtain ⟨list, last', hlist, hrun⟩ := hnext ts us hts hus hapart last flaw revisions
    refine ⟨list, last', hlist, ?_⟩
    have hempty : (ts ++ us).isEmpty = false := by
      rw [List.isEmpty_eq_false_iff]
      intro hnil
      obtain ⟨rfl, -⟩ := List.append_eq_nil_iff.1 hnil
      exact hne x (by simp) (List.append_eq_nil_iff.1 hts.symm).1
    rw [statementsUpTo, StateT.run_bind, StateT.run_get, Option.pure_def, Option.bind_eq_bind,
      Option.bind_some, hempty, if_neg Bool.false_ne_true]
    exact hrun

/-- The statements of a whole text, each read with fuel of its own. -/
theorem reads_statements (xs : List ι) (hne : ∀ x ∈ xs, kinds x ≠ [])
    (h : ∀ x ∈ xs, ∀ rest, Reads (statementUpTo ((kinds x ++ rest).length + 1)) (kinds x) rest (P x)) :
    Reads statements (xs.flatMap kinds) [] fun list ↦ List.Forall₂ P xs (list.map Prod.fst) :=
  reads_remaining.peekThen fun n hn ↦ by
    have hlength := length_le_flatMap hne
    refine reads_statementsUpTo xs hne h ?_
    rw [hn, List.append_nil]
    omega

end Text

end StarlarkMacro.Source.Reader
