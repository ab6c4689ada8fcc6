import StarlarkMacro.Proofs.Source.Expression

/-!
# Reading calls

A call of a method on a name with plain arguments is read as a call, and no target of an assignment is: the
way it ends tells a call from everything that can be assigned to. So a line that begins with a call is an
expression, and a line that begins with a name and an equals sign is an assignment.
-/

namespace StarlarkMacro.Source.Reader

variable {α β ι : Type} {g : Inner} {kinds rest : List TokenKind} {Q : Operand → Prop}

/-- The marks of arguments and the trees of what is passed. -/
def argumentTrees (arguments : Arguments) : List (ArgumentMark × Expression) :=
  arguments.map fun a ↦ (a.1, a.2.tree)

/-- A plain argument of that tree. -/
def IsPlainArgument (tree : Expression) (a : ArgumentMark × Operand) : Prop :=
  a.1 = .plain ∧ a.2.tree = tree

theorem argumentTrees_cons {tree : Expression} {a : ArgumentMark × Operand} {arguments : Arguments}
    (ha : IsPlainArgument tree a) :
    argumentTrees (a :: arguments) = (.plain, tree) :: argumentTrees arguments := by
  rw [argumentTrees, List.map_cons, ha.1, ha.2, ← argumentTrees]

/-- Plain arguments are told by their trees, in order. -/
theorem argumentTrees_of_forall₂ {tree : ι → Expression} {xs : List ι} {arguments : Arguments}
    (h : List.Forall₂ (fun x a ↦ IsPlainArgument (tree x) a) xs arguments) :
    argumentTrees arguments = xs.map fun x ↦ (.plain, tree x) := by
  induction h with
  | nil => rfl
  | cons ha _ ih => rw [argumentTrees_cons ha, ih, List.map_cons]

/-- The order of marks is checked for keywords and stars; plain arguments are always in order. -/
theorem orderedMarks_of_argumentTrees (trees : List Expression) {arguments : Arguments}
    (h : argumentTrees arguments = trees.map fun tree ↦ (.plain, tree)) :
    orderedMarks 0 (arguments.map Prod.fst) = true := by
  have hmarks : arguments.map Prod.fst = trees.map fun _ ↦ .plain := by
    simpa [argumentTrees, Function.comp_def] using congrArg (List.map Prod.fst) h
  rw [hmarks]
  clear h hmarks
  induction trees with
  | nil => rfl
  | cons tree trees ih => exact ih

/-! ## Arguments -/

/-- A name in front of an equals sign or a walrus does not begin the tokens. -/
def Unnamed (kinds : List TokenKind) : Prop :=
  ∀ text, kinds.head? = some (.name text) →
    (kinds.drop 1).head? ≠ some (.symbol .equal) ∧ (kinds.drop 1).head? ≠ some (.symbol .walrus)

/-- Only that a name comes next is kept of the test, not which one. -/
theorem reads_nextIsName :
    Reads nextIsName [] rest fun b ↦ b = true → ∃ text, rest.head? = some (.name text) :=
  reads_peek.last fun k hk ↦ by
    subst hk
    split
    · exact .pure fun _ ↦ ⟨_, ‹_›⟩
    · exact .pure fun h ↦ nomatch h

section Argument

variable (hunnamed : Unnamed (kinds ++ rest))
include hunnamed

theorem Unnamed.and_eq_false {isName : Bool} {second : Option TokenKind} {s : Symbol}
    (hname : isName = true → ∃ text, (kinds ++ rest).head? = some (.name text))
    (hsecond : second = ((kinds ++ rest).drop 1).head?) (hs : s = .equal ∨ s = .walrus) :
    (isName && decide (second = some (.symbol s))) = false := by
  cases isName with
  | false => rfl
  | true =>
    obtain ⟨text, htext⟩ := hname rfl
    obtain ⟨hequal, hwalrus⟩ := hunnamed text htext
    rw [hsecond, Bool.true_and, decide_eq_false_iff_not]
    rcases hs with rfl | rfl
    · exact hequal
    · exact hwalrus

theorem reads_nextIsNaming_of_unnamed : Reads nextIsNaming [] (kinds ++ rest) (· = false) :=
  reads_nextIsName.last fun _ hname ↦ reads_peekSecond.last fun _ hsecond ↦
    .pure (hunnamed.and_eq_false hname hsecond (.inr rfl))

/-- An expression that begins with neither a star nor a name of a parameter is a plain argument. -/
theorem reads_argument (h : Reads (g .expression) kinds rest Q) (hkinds : Begins opensOperand kinds) :
    Reads (argument g) kinds rest fun a ↦ a.1 = .plain ∧ Q a.2 := by
  refine .unless (reads_acceptSymbol_of_ne (hkinds.head?_ne rfl))
    (.unless (reads_acceptSymbol_of_ne (hkinds.head?_ne rfl)) ?_)
  refine reads_nextIsName.peekThen fun isName hname ↦ reads_peekSecond.peekThen fun second hsecond ↦ ?_
  rw [hunnamed.and_eq_false hname hsecond (.inl rfl), if_neg Bool.false_ne_true]
  have hexpression : Reads (namedExpression g) kinds rest Q :=
    .unless (reads_nextIsNaming_of_unnamed hunnamed) h
  exact hexpression.last fun e he ↦ .pure ⟨rfl, he⟩

end Argument

theorem Fails.map {p : Reader α} (f : α → β) (h : Fails p rest) : Fails (f <$> p) rest := by
  intro us hus hapart last flaw revisions
  rw [StateT.run_map, h us hus hapart last flaw revisions]
  rfl

section Arguments

variable {first : List TokenKind} {firstTree : Expression} {kinds : ι → List TokenKind}
  {tree : ι → Expression} {xs : List ι}

theorem begins_ne_closing {ks : List TokenKind} (h : Begins opensOperand ks) :
    ∃ k more, ks = k :: more ∧ k ≠ .symbol .rightParen := by
  obtain ⟨k, more, rfl, hk⟩ := h
  refine ⟨k, more, rfl, ?_⟩
  rintro rfl
  cases hk

/-- The arguments behind the first one. -/
theorem reads_restOfArguments {a : ArgumentMark × Operand} (ha : IsPlainArgument firstTree a)
    (h : ∀ x ∈ xs, ∀ after, Follows (.symbol .rightParen :: rest) after →
      Reads (argument g) (kinds x) after (IsPlainArgument (tree x)))
    (hkinds : ∀ x ∈ xs, Begins opensOperand (kinds x)) :
    Reads (restOfArguments g a) (moreKinds kinds xs ++ [.symbol .rightParen]) rest
      (argumentTrees · = (.plain, firstTree) :: xs.map fun x ↦ (.plain, tree x)) := by
  cases xs with
  | nil =>
    exact .unless (reads_acceptSymbol_of_ne (by simp [moreKinds]))
      ((reads_symbol .rightParen).last fun _ _ ↦ .pure (argumentTrees_cons ha))
  | cons x xs =>
    have hmore : moreKinds kinds (x :: xs) ++ [.symbol .rightParen] =
        .symbol .comma :: (listedKinds kinds x xs ++ [.symbol .rightParen]) := by
      simp [moreKinds, listedKinds]
    rw [hmore]
    refine .whenTaken (reads_acceptSymbol _) ((reads_commaListBefore (by decide) x xs h
      fun y hy ↦ begins_ne_closing (hkinds y hy)).last fun list hlist ↦ ?_)
    obtain ⟨more, last⟩ := list
    have htrees : argumentTrees (a :: more) =
        (.plain, firstTree) :: (x :: xs).map fun x ↦ (.plain, tree x) := by
      rw [argumentTrees_cons ha, argumentTrees_of_forall₂ hlist]
    have hordered : orderedMarks 0 ((a :: more).map Prod.fst) = true :=
      orderedMarks_of_argumentTrees (firstTree :: (x :: xs).map tree)
        (by simpa [Function.comp_def] using htrees)
    simp only [hordered, if_true]
    exact .pure htrees

/-- The arguments of a call up to its closing parenthesis. The first one is read apart from the others, as a
comprehension could follow it. -/
theorem reads_callArguments (hbegins : Begins opensOperand first)
    (hfirst : ∀ after, Follows (.symbol .rightParen :: rest) after →
      Reads (argument g) first after (IsPlainArgument firstTree))
    (h : ∀ x ∈ xs, ∀ after, Follows (.symbol .rightParen :: rest) after →
      Reads (argument g) (kinds x) after (IsPlainArgument (tree x)))
    (hkinds : ∀ x ∈ xs, Begins opensOperand (kinds x)) :
    Reads (callArguments g) (first ++ moreKinds kinds xs ++ [.symbol .rightParen]) rest
      (argumentTrees · = (.plain, firstTree) :: xs.map fun x ↦ (.plain, tree x)) := by
  have hfollows : Follows (.symbol .rightParen :: rest)
      (moreKinds kinds xs ++ TokenKind.symbol .rightParen :: rest) := by
    cases xs with
    | nil => exact .inl rfl
    | cons x xs => exact .inr ⟨_, rfl⟩
  have hstop : Stops (moreKinds kinds xs ++ .symbol .rightParen :: rest) :=
    Stops.of_follows ⟨_, _, rfl, rfl⟩ hfollows
  rw [List.append_assoc]
  have hne {k : TokenKind} (hk : opensOperand k = false) :
      ((first ++ (moreKinds kinds xs ++ [TokenKind.symbol .rightParen])) ++ rest).head? ≠ some k := by
    rw [List.append_assoc]
    exact hbegins.head?_ne hk
  have hstarred : Fails (some <$> tightStarred g)
      ([] ++ ((first ++ (moreKinds kinds xs ++ [.symbol .rightParen])) ++ rest)) :=
    (fails_token (hne rfl)).bind.map some
  refine .unless (reads_acceptSymbol_of_ne (hne rfl)) ?_
  refine Reads.peekThen (Q := (· = none)) (Fails.orElseReads hstarred (.pure rfl)) fun starred hnone ↦ ?_
  subst hnone
  refine (hfirst _ (by simpa using hfollows)).bind fun a ha ↦ ?_
  have hclause : Reads nextIsClause []
      ((moreKinds kinds xs ++ [TokenKind.symbol .rightParen]) ++ rest) (· = false) := by
    rw [List.append_assoc]
    exact reads_nextIsClause_of_ne (hstop.head?_ne rfl) (hstop.head?_ne rfl)
  refine hclause.peekThen fun clause hfalse ↦ ?_
  rw [hfalse, Bool.and_false, if_neg Bool.false_ne_true]
  exact reads_restOfArguments ha h hkinds

end Arguments

/-! ## Calls of methods -/

/-- A call of a method of a name. -/
def callKinds (object method : List Char) (arguments : List TokenKind) : List TokenKind :=
  .name object :: .symbol .dot :: .name method :: .symbol .leftParen ::
    (arguments ++ [.symbol .rightParen])

section Method

variable {object method : List Char} {arguments : List TokenKind}
  {trees : List (ArgumentMark × Expression)} (hobject : Lexeme.isIdentifier object = true)
  (hmethod : Lexeme.isIdentifier method = true) (hrest : Stops rest)
  (h : Reads (callArguments g) (arguments ++ [.symbol .rightParen]) rest (argumentTrees · = trees))
include hobject hmethod hrest h

/-- The ending tells that the last part was a call, which is what no target of an assignment may be. -/
theorem reads_primary_call :
    Reads (primary g) (callKinds object method arguments) rest fun r ↦
      r.1.tree = .call (.attribute (.name object) method) trees ∧ r.2 = .call := by
  refine (reads_atom_name hobject).cons fun e he ↦ reads_remaining.peekThen fun n hn ↦ ?_
  obtain ⟨n, rfl⟩ : ∃ k, n = k + 2 := ⟨n - 2, by
    simp only [List.length_append, List.length_cons] at hn
    omega⟩
  subst he
  refine .whenTaken (reads_acceptSymbol _) ((reads_name hmethod).cons fun text htext ↦ ?_)
  subst htext
  refine .unless (reads_acceptSymbol_of_ne (by simp)) (.whenTaken (reads_acceptSymbol _) ?_)
  refine h.last fun list hlist ↦ (reads_trailersUpTo hrest n _ .call).mono fun r hr ↦ ?_
  subst hr
  exact ⟨congrArg _ hlist, rfl⟩

/-- A call of a method on a name is read as an expression as it stands. -/
theorem reads_expression_call :
    Reads (expression g) (callKinds object method arguments) rest
      (·.tree = .call (.attribute (.name object) method) trees) := by
  have hbegins : Begins opensAtom (callKinds object method arguments) := ⟨_, _, rfl, rfl⟩
  exact reads_expression (reads_operand
    ((reads_primary_call hobject hmethod hrest h).mono fun _ hr ↦ hr.1) hbegins)
    hbegins.opensOperand hrest

/-- A call is read up to its end first and refused as a target only then. -/
theorem fails_plainTarget_call :
    Fails (plainTarget g) (callKinds object method arguments ++ rest) := by
  refine reads_nextIsName.peekFails fun named _ ↦ ?_
  refine (reads_primary_call hobject hmethod hrest h).failsBind fun r hr ↦ ?_
  obtain ⟨e, ending⟩ := r
  obtain ⟨-, rfl⟩ := hr
  exact fails_failure

end Method

/-! ## Targets -/

/-- Neither a bracket nor a star begins the tokens. -/
def Unbracketed (kinds : List TokenKind) : Prop :=
  ∀ s ∈ [Symbol.leftParen, .leftBracket, .star], kinds.head? ≠ some (.symbol s)

section Target

variable {n : Nat} (h : Unbracketed rest)
include h

theorem fails_bracketedTargets (inner : Phrase) : Fails (bracketedTargets g inner) rest :=
  .unless (reads_nextIs_of_ne (h _ (by simp))) (fails_token (h _ (by simp))).bind

/-- Where no single target can be read and no bracket begins, a list of targets fails too. -/
theorem fails_targets (hplain : Fails (plainTarget (phrase n)) rest) :
    Fails (targets (phrase (n + 1))) rest := by
  have htarget : Fails (target (phrase n)) rest :=
    (reads_acceptSymbol_of_ne (h _ (by simp))).peekFails fun _ _ ↦
      (hplain.orElse (fails_bracketedTargets h .target)).bind
  refine Fails.bind (reads_remaining.peekFails fun m _ ↦ ?_)
  cases m with
  | zero => exact fails_failure
  | succ m => exact htarget.bind

theorem fails_single (hplain : Fails (plainTarget g) rest) : Fails (single g) rest :=
  hplain.orElse (fails_token (h _ (by simp))).bind

end Target

theorem reads_target_name {text : List Char} (htext : Lexeme.isIdentifier text = true)
    (hrest : Stops rest) : Reads (target g) [.name text] rest (·.tree = .name text) := by
  have hplain : Reads (plainTarget g) [.name text] rest (·.tree = .name text) := by
    refine (reads_nextIsName_name text).peekThen fun named hnamed ↦ ?_
    refine (reads_primary hrest (reads_atom_name htext)).last fun r hr ↦ ?_
    obtain ⟨e, ending⟩ := r
    obtain ⟨rfl, rfl⟩ := hr
    subst hnamed
    exact .pure rfl
  refine (reads_acceptSymbol_of_ne (by simp)).peekThen fun starred hstarred ↦ ?_
  subst hstarred
  exact hplain.orElse.last fun e he ↦ .pure he

end StarlarkMacro.Source.Reader
