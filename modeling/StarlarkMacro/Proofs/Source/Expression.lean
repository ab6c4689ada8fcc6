import StarlarkMacro.Proofs.Source.Reads

/-!
# Reading expressions without operators

An atom or a number with its sign in front of a token that ends an expression is read as it stands by every
level of the grammar, since no level finds an operator behind it. A name, an attribute of it or a call of a
method are all else that is needed.
-/

namespace StarlarkMacro.Source.Reader

/-- The tokens that end an expression. -/
def isStop : TokenKind → Bool
  | .newline => true
  | .symbol s =>
    [Symbol.comma, .colon, .equal, .rightParen, .rightBracket, .rightBrace].contains s
  | _ => false

/-- A token that ends an expression comes next. -/
def Stops (rest : List TokenKind) : Prop := ∃ k more, rest = k :: more ∧ isStop k = true

/-- What is no stop does not come next: the tests for optional parts all answer no. -/
theorem Stops.head?_ne {rest : List TokenKind} (h : Stops rest) {k : TokenKind}
    (hk : isStop k = false) : rest.head? ≠ some k := by
  obtain ⟨k', more, rfl, hstop⟩ := h
  rintro ⟨⟩
  simp [hk] at hstop

/-- In a list an item is followed by a comma or by what follows the list, and both are stops. -/
theorem Stops.of_follows {rest after : List TokenKind} (h : Stops rest) (hafter : Follows rest after) :
    Stops after := by
  obtain rfl | ⟨more, rfl⟩ := hafter
  · exact h
  · exact ⟨_, more, rfl, rfl⟩

/-- The tokens that begin an atom, but for those of formatted strings and the ellipsis. -/
def opensAtom : TokenKind → Bool
  | .name _ | .number _ | .string _ => true
  | .keyword k => [Keyword.noneWord, .trueWord, .falseWord].contains k
  | .symbol s => [Symbol.leftParen, .leftBracket, .leftBrace].contains s
  | _ => false

/-- The tokens that begin an atom or a number with its sign. -/
def opensOperand (k : TokenKind) : Bool := k = .symbol .minus || opensAtom k

variable {g : Inner} {kinds rest : List TokenKind} {Q : Operand → Prop}

/-- Tokens that begin with one of a class. -/
def Begins (p : TokenKind → Bool) (kinds : List TokenKind) : Prop :=
  ∃ k ks, kinds = k :: ks ∧ p k = true

theorem Begins.head?_ne {p : TokenKind → Bool} (h : Begins p kinds) {k : TokenKind}
    (hk : p k = false) : (kinds ++ rest).head? ≠ some k := by
  obtain ⟨k', ks, rfl, hp⟩ := h
  rintro ⟨⟩
  simp [hk] at hp

theorem Begins.opensOperand (h : Begins opensAtom kinds) : Begins opensOperand kinds := by
  obtain ⟨k, ks, rfl, hk⟩ := h
  exact ⟨k, ks, rfl, by simp [Reader.opensOperand, hk]⟩

/-! ## Failures in front of a stop -/

section Stop

variable (hrest : Stops rest)
include hrest

/-- A reader that begins with a token and goes on behind none of the stops fails in front of them. -/
theorem fails_next {α : Type} {f : TokenKind → Reader α} (newline : f .newline = failure)
    (symbol : ∀ s ∈ [Symbol.comma, .colon, .equal, .rightParen, .rightBracket, .rightBrace],
      f (.symbol s) = failure) : Fails (next >>= f) rest := by
  obtain ⟨k, more, rfl, hstop⟩ := hrest
  have hfails : f k = failure := by
    cases k with
    | newline => exact newline
    | symbol s => exact symbol s (List.contains_iff_mem.1 hstop)
    | _ => cases hstop
  refine (reads_next k).failsBind fun _ hk ↦ ?_
  rw [hk, hfails]
  exact fails_failure

theorem fails_binaryOperator : Fails binaryOperator rest := fails_next hrest rfl (by simp)

theorem fails_comparisonOperator : Fails comparisonOperator rest := fails_next hrest rfl (by simp)

theorem fails_booleanOperator : Fails booleanOperator rest := fails_next hrest rfl (by simp)

theorem fails_stringPart : Fails (stringPart g) rest := fails_next hrest rfl (by simp)

/-- Neither an attribute nor a call nor a subscript begins with a stop. -/
theorem reads_trailersUpTo (n : Nat) (e : Operand) (ending : Ending) :
    Reads (trailersUpTo g n e ending) [] rest (· = (e, ending)) := by
  cases n with
  | zero => exact .pure rfl
  | succ n =>
    exact .unless (reads_acceptSymbol_of_ne (hrest.head?_ne rfl))
      (.unless (reads_acceptSymbol_of_ne (hrest.head?_ne rfl))
        (.unless (reads_acceptSymbol_of_ne (hrest.head?_ne rfl)) (.pure rfl)))

end Stop

/-! ## Levels -/

/-- No atom begins with a sign, so the loop over the signs ends in front of one. -/
theorem fails_sign (h : Begins opensAtom kinds) : Fails sign (kinds ++ rest) := by
  obtain ⟨k, ks, rfl, hk⟩ := h
  refine (reads_next k).failsBind fun _ h ↦ ?_
  subst h
  split
  · cases hk
  · cases hk
  · cases hk
  · exact fails_failure

/-- A level of the grammar takes a single item where its operator fails to come. -/
theorem reads_chain {operator : Reader Bool} {item : Reader Operand} (hitem : Reads item kinds rest Q)
    (hoperator : Fails operator rest) : Reads (chain operator item) kinds rest Q := by
  refine hitem.last fun e he ↦ reads_remaining.peekThen fun n _ ↦ ?_
  cases n with
  | zero => exact .pure he
  | succ n => exact (reads_touching.peekFails fun _ _ ↦ hoperator.bind).orElseReads (.pure he)

theorem reads_awaited (h : Reads (primary g) kinds rest fun r ↦ Q r.1)
    (hkinds : Begins opensAtom kinds) : Reads (awaited g) kinds rest Q :=
  .unless (reads_acceptKeyword_of_ne (hkinds.head?_ne rfl)) (h.last fun _ hr ↦ .pure hr)

theorem reads_operand (h : Reads (primary g) kinds rest fun r ↦ Q r.1)
    (hkinds : Begins opensAtom kinds) : Reads (operand g) kinds rest Q := by
  refine (reads_many_nil (fails_sign hkinds)).peekThen fun signs hsigns ↦ ?_
  refine (reads_awaited h hkinds).last fun e he ↦ .pure ?_
  rw [hsigns]
  exact he

theorem reads_sign_minus : Reads sign [.symbol .minus] rest fun _ ↦ True :=
  (reads_next (.symbol .minus)).last fun _ hk ↦ by
    subst hk
    exact .pure trivial

/-- The tree keeps nothing of a number, with or without its sign. -/
theorem reads_operand_minus (h : Reads (primary g) kinds rest fun _ ↦ True)
    (hkinds : Begins opensAtom kinds) :
    Reads (operand g) (.symbol .minus :: kinds) rest (·.tree = .other) := by
  refine (reads_many_one reads_sign_minus (by simp) (fails_sign hkinds)).cons fun signs hsigns ↦ ?_
  have hawaited : Reads (awaited g) kinds rest fun _ ↦ True := reads_awaited h hkinds
  refine hawaited.last fun e _ ↦ .pure ?_
  obtain ⟨sign, rfl, -⟩ := hsigns
  rfl

/-- What is read as an operand is read as an expression in front of a stop. -/
theorem reads_expression (h : Reads (operand g) kinds rest Q) (hkinds : Begins opensOperand kinds)
    (hrest : Stops rest) : Reads (expression g) kinds rest Q := by
  have hcomparison : Reads (chain comparisonOperator (arithmetic g)) kinds rest Q :=
    reads_chain (reads_chain h (fails_binaryOperator hrest)) (fails_comparisonOperator hrest)
  have hnegation : Reads (negation g) kinds rest Q := by
    refine reads_remaining.peekThen fun n hn ↦ ?_
    obtain ⟨k, ks, rfl, -⟩ := id hkinds
    rw [hn, List.length_append, List.length_cons, Nat.add_right_comm]
    exact .unless (reads_acceptKeyword_of_ne (hkinds.head?_ne rfl)) hcomparison
  refine .unless (reads_nextIs_of_ne (hkinds.head?_ne rfl)) ?_
  refine (reads_chain hnegation (fails_booleanOperator hrest)).last fun e he ↦ ?_
  exact .unless (reads_nextIs_of_ne (hrest.head?_ne rfl)) (.pure he)

/-! ## Atoms -/

section Atoms

variable (hrest : Stops rest)
include hrest

theorem reads_primary (h : Reads (atom g) kinds rest Q) :
    Reads (primary g) kinds rest fun r ↦ Q r.1 ∧ r.2 = .atom :=
  h.last fun e he ↦ reads_remaining.peekThen fun n _ ↦
    (reads_trailersUpTo hrest n e .atom).mono fun r hr ↦ by
      subst hr
      exact ⟨he, rfl⟩

/-- An atom in front of a stop passes all levels of the grammar unchanged. -/
theorem reads_expression_of_atom (h : Reads (atom g) kinds rest Q) (hkinds : Begins opensAtom kinds) :
    Reads (expression g) kinds rest Q :=
  reads_expression (reads_operand ((reads_primary hrest h).mono fun _ hr ↦ hr.1) hkinds)
    hkinds.opensOperand hrest

/-- Strings in a row are joined, so a stop must follow for this one to stand alone. -/
theorem reads_atom_string (text : List Char) :
    Reads (atom g) [.string text] rest (·.tree = .string text) := by
  refine reads_peek.peekThen fun k hk ↦ ?_
  subst hk
  have hpart : Reads (stringPart g) [.string text] rest (· = .literal text) :=
    (reads_next (.string text)).last fun _ hk ↦ by
      subst hk
      exact .pure rfl
  refine (reads_many1_one hpart (fails_stringPart hrest)).last fun parts hparts ↦ ?_
  obtain ⟨part, rfl, rfl⟩ := hparts
  exact .pure rfl

end Atoms

theorem reads_atom_name {text : List Char} (h : Lexeme.isIdentifier text = true) :
    Reads (atom g) [.name text] rest (· = ⟨.name text, .word⟩) :=
  reads_peek.peekThen fun k hk ↦ by
    subst hk
    exact (reads_name h).last fun _ hname ↦ .pure (by rw [hname])

theorem reads_atom_number (imaginary : Bool) :
    Reads (atom g) [.number imaginary] rest (·.tree = .other) :=
  reads_peek.peekThen fun k hk ↦ by
    subst hk
    exact (reads_next _).last fun _ _ ↦ .pure rfl

theorem reads_atom_constant {k : Keyword} (h : k = .noneWord ∨ k = .trueWord ∨ k = .falseWord) :
    Reads (atom g) [.keyword k] rest (·.tree = .other) :=
  reads_peek.peekThen fun k hk ↦ by
    subst hk
    rcases h with rfl | rfl | rfl
    all_goals exact (reads_next _).last fun _ _ ↦ .pure rfl

end StarlarkMacro.Source.Reader
