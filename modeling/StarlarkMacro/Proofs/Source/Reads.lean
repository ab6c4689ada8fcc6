import StarlarkMacro.Source.Reader.Statement
import Mathlib.Data.List.Chain
import Mathlib.Data.List.Forall2

/-!
# What a reader takes

A reader is described by the kinds of the tokens that it takes in front of others, and by what is known of
its result. It leaves the flaw and the revisions alone. Where tokens stand plays a part in one place only:
an expression must not touch the word that returns it, so no such pair may stand in the text at all.
-/

namespace StarlarkMacro.Source.Reader

/-- What is returned stands apart from the word that returns it. -/
def Apart (ts : List Token) : Prop :=
  ts.IsChain fun a b ↦ a.kind = .keyword .returnWord → b.start ≠ a.stop

variable {α β : Type}

/-- In front of tokens of the kinds `rest` the reader takes tokens of the kinds `kinds`, and no others. -/
def Reads (p : Reader α) (kinds rest : List TokenKind) (Q : α → Prop) : Prop :=
  ∀ ts us : List Token, ts.map Token.kind = kinds → us.map Token.kind = rest → Apart (ts ++ us) →
    ∀ last flaw revisions, ∃ a last', Q a ∧
      p.run ⟨ts ++ us, last, flaw, revisions⟩ = some (a, ⟨us, last', flaw, revisions⟩)

/-- The reader fails in front of tokens of those kinds. -/
def Fails (p : Reader α) (rest : List TokenKind) : Prop :=
  ∀ us : List Token, us.map Token.kind = rest → Apart us →
    ∀ last flaw revisions, p.run ⟨us, last, flaw, revisions⟩ = none

section Combinators

variable {p q : Reader α} {f : α → Reader β} {kinds kinds' rest : List TokenKind} {Q R : α → Prop}
  {S : β → Prop} {k : TokenKind}

theorem Reads.mono (h : Reads p kinds rest Q) (hQ : ∀ a, Q a → R a) : Reads p kinds rest R := by
  intro ts us hts hus hapart last flaw revisions
  obtain ⟨a, last', ha, hrun⟩ := h ts us hts hus hapart last flaw revisions
  exact ⟨a, last', hQ a ha, hrun⟩

theorem Reads.pure {a : α} (h : Q a) : Reads (pure a) [] rest Q := by
  intro ts us hts _ _ last flaw revisions
  obtain rfl := List.map_eq_nil_iff.1 hts
  exact ⟨a, last, h, rfl⟩

/-- Readers in a row. Each is described in front of all that follows it, what the next one takes included,
and the stretches of tokens are put together. -/
theorem Reads.bind (hp : Reads p kinds (kinds' ++ rest) Q)
    (hf : ∀ a, Q a → Reads (f a) kinds' rest S) : Reads (p >>= f) (kinds ++ kinds') rest S := by
  intro ts us hts hus hapart last flaw revisions
  obtain ⟨ts₁, ts₂, rfl, hts₁, hts₂⟩ := List.map_eq_append_iff.1 hts
  rw [List.append_assoc] at hapart ⊢
  obtain ⟨a, last₁, ha, hrun⟩ := hp ts₁ (ts₂ ++ us) hts₁ (by rw [List.map_append, hts₂, hus]) hapart
    last flaw revisions
  obtain ⟨b, last₂, hb, hrun'⟩ := hf a ha ts₂ us hts₂ hus hapart.right_of_append last₁ flaw revisions
  exact ⟨b, last₂, hb, by rw [StateT.run_bind, hrun]; exact hrun'⟩

/-- What takes nothing comes first. -/
theorem Reads.peekThen (hp : Reads p [] (kinds ++ rest) Q)
    (hf : ∀ a, Q a → Reads (f a) kinds rest S) : Reads (p >>= f) kinds rest S :=
  hp.bind hf

/-- The form of the bind that takes a single token first, so that a list of kinds is worked off from its
head. -/
theorem Reads.cons (hp : Reads p [k] (kinds ++ rest) Q)
    (hf : ∀ a, Q a → Reads (f a) kinds rest S) : Reads (p >>= f) (k :: kinds) rest S :=
  hp.bind hf

/-- What follows takes nothing: it only makes something of the result. -/
theorem Reads.last (hp : Reads p kinds rest Q) (hf : ∀ a, Q a → Reads (f a) [] rest S) :
    Reads (p >>= f) kinds rest S := by
  have h : Reads (p >>= f) (kinds ++ []) rest S := hp.bind hf
  rwa [List.append_nil] at h

section Branches

variable {test : Reader Bool} {a b : Reader β}

/-- Most branches of the grammar are of this form: a test looks at what comes next, and no optional part is
there. -/
theorem Reads.unless (htest : Reads test [] (kinds ++ rest) (· = false)) (hb : Reads b kinds rest S) :
    Reads (test >>= fun c ↦ if c = true then a else b) kinds rest S :=
  htest.peekThen fun _ hc ↦ by rwa [hc]

theorem Reads.when (htest : Reads test [] (kinds ++ rest) (· = true)) (ha : Reads a kinds rest S) :
    Reads (test >>= fun c ↦ if c = true then a else b) kinds rest S :=
  htest.peekThen fun _ hc ↦ by rwa [hc]

/-- The test itself takes a token, as accepting a symbol does. -/
theorem Reads.whenTaken (htest : Reads test [k] (kinds ++ rest) (· = true))
    (ha : Reads a kinds rest S) :
    Reads (test >>= fun c ↦ if c = true then a else b) (k :: kinds) rest S :=
  htest.cons fun _ hc ↦ by rwa [hc]

end Branches

/-- A failure at the start is a failure of the whole. -/
theorem Fails.bind (h : Fails p rest) : Fails (p >>= f) rest := by
  intro us hus hapart last flaw revisions
  rw [StateT.run_bind, h us hus hapart last flaw revisions]
  rfl

/-- What a reader takes may be followed by what makes it fail. -/
theorem Reads.failsBind (hp : Reads p kinds rest Q) (hf : ∀ a, Q a → Fails (f a) rest) :
    Fails (p >>= f) (kinds ++ rest) := by
  intro us hus hapart last flaw revisions
  obtain ⟨ts, vs, rfl, hts, hvs⟩ := List.map_eq_append_iff.1 hus
  obtain ⟨a, last', ha, hrun⟩ := hp ts vs hts hvs hapart last flaw revisions
  rw [StateT.run_bind, hrun]
  exact hf a ha vs hvs hapart.right_of_append last' flaw revisions

/-- A look at what comes next does not keep what follows from failing. -/
theorem Reads.peekFails (hp : Reads p [] rest Q) (hf : ∀ a, Q a → Fails (f a) rest) :
    Fails (p >>= f) rest := hp.failsBind hf

theorem Fails.unless {test : Reader Bool} {a b : Reader β} (htest : Reads test [] rest (· = false))
    (hb : Fails b rest) : Fails (test >>= fun c ↦ if c = true then a else b) rest :=
  htest.peekFails fun _ hc ↦ by rwa [hc]

theorem fails_failure : Fails (failure : Reader α) rest := fun _ _ _ _ _ _ ↦ rfl

/-- A second choice starts over from where the first one started. -/
theorem run_orElse (s : Reading) : (p <|> q).run s = (p.run s <|> q.run s) := rfl

theorem Fails.orElse (hp : Fails p rest) (hq : Fails q rest) : Fails (p <|> q) rest := by
  intro us hus hapart last flaw revisions
  rw [run_orElse, hp us hus hapart last flaw revisions, hq us hus hapart last flaw revisions]
  rfl

/-- The first choice that succeeds is kept; the second is not looked at, whatever it would take. -/
theorem Reads.orElse (hp : Reads p kinds rest Q) : Reads (p <|> q) kinds rest Q := by
  intro ts us hts hus hapart last flaw revisions
  obtain ⟨a, last', ha, hrun⟩ := hp ts us hts hus hapart last flaw revisions
  exact ⟨a, last', ha, by rw [run_orElse, hrun]; rfl⟩

theorem Fails.orElseReads (hp : Fails p (kinds ++ rest)) (hq : Reads q kinds rest Q) :
    Reads (p <|> q) kinds rest Q := by
  intro ts us hts hus hapart last flaw revisions
  obtain ⟨a, last', ha, hrun⟩ := hq ts us hts hus hapart last flaw revisions
  refine ⟨a, last', ha, ?_⟩
  rw [run_orElse, hp (ts ++ us) (by rw [List.map_append, hts, hus]) hapart last flaw revisions, hrun]
  rfl

end Combinators

/-! ## Single tokens -/

section Tokens

variable {rest : List TokenKind}

/-- The fuel of the loops below is this number, which is why they never run out of it. -/
theorem reads_remaining : Reads remaining [] rest (· = rest.length) := by
  intro ts us hts hus _ last flaw revisions
  obtain rfl := List.map_eq_nil_iff.1 hts
  exact ⟨us.length, last, by rw [← hus, List.length_map], rfl⟩

/-- A look at the kind of the next token. It takes nothing, so what is known of `rest` settles the result.
-/
theorem reads_peek : Reads peek [] rest (· = rest.head?) := by
  intro ts us hts hus _ last flaw revisions
  obtain rfl := List.map_eq_nil_iff.1 hts
  exact ⟨us.head?.map Token.kind, last, by rw [← hus, List.head?_map], rfl⟩

theorem reads_peekSecond : Reads peekSecond [] rest (· = (rest.drop 1).head?) := by
  intro ts us hts hus _ last flaw revisions
  obtain rfl := List.map_eq_nil_iff.1 hts
  exact ⟨(us.drop 1).head?.map Token.kind, last, by rw [← hus, ← List.map_drop, List.head?_map], rfl⟩

theorem reads_position : Reads position [] rest fun _ ↦ True := by
  intro ts us hts _ _ last flaw revisions
  obtain rfl := List.map_eq_nil_iff.1 hts
  exact ⟨_, last, trivial, rfl⟩

theorem reads_touching : Reads touching [] rest fun _ ↦ True := by
  intro ts us hts _ _ last flaw revisions
  obtain rfl := List.map_eq_nil_iff.1 hts
  exact ⟨_, last, trivial, rfl⟩

/-- Any token is taken as it is; which kinds are accepted is up to what follows. -/
theorem reads_next (k : TokenKind) : Reads next [k] rest (· = k) := by
  intro ts us hts _ _ last flaw revisions
  obtain ⟨t, rfl, ht⟩ := List.map_eq_singleton_iff.1 hts
  exact ⟨_, t.stop, ht, rfl⟩

theorem fails_next_nil : Fails next [] := by
  intro us hus _ last flaw revisions
  obtain rfl := List.map_eq_nil_iff.1 hus
  rfl

theorem reads_token (k : TokenKind) : Reads (token k) [k] rest fun _ ↦ True :=
  (reads_next k).last fun _ hk ↦ by
    rw [if_pos hk]
    exact .pure trivial

theorem reads_symbol (s : Symbol) : Reads (symbol s) [.symbol s] rest fun _ ↦ True :=
  reads_token _

theorem reads_keyword (k : Keyword) : Reads (keyword k) [.keyword k] rest fun _ ↦ True :=
  reads_token _

/-- A reader of one kind fails in front of every other one, and in front of no token at all. -/
theorem fails_token {k : TokenKind} (h : rest.head? ≠ some k) : Fails (token k) rest := by
  cases rest with
  | nil => exact fails_next_nil.bind
  | cons k' rest =>
    exact (reads_next k').failsBind fun _ hk ↦ by
      rw [hk, if_neg fun heq ↦ h (by rw [heq]; rfl)]
      exact fails_failure

/-- A name token need not hold an identifier, so that it does is asked for. -/
theorem reads_name {text : List Char} (h : Lexeme.isIdentifier text = true) :
    Reads name [.name text] rest (· = text) :=
  (reads_next (.name text)).last fun _ hk ↦ by
    subst hk
    simp only [h, if_true]
    exact .pure rfl

theorem reads_nextIs (k : TokenKind) :
    Reads (nextIs k) [] rest (· = decide (rest.head? = some k)) :=
  reads_peek.last fun _ hk ↦ by
    subst hk
    exact .pure rfl

theorem reads_nextIs_of_eq {k : TokenKind} (h : rest.head? = some k) :
    Reads (nextIs k) [] rest (· = true) :=
  (reads_nextIs k).mono fun _ hb ↦ by rw [hb, decide_eq_true h]

theorem reads_nextIs_of_ne {k : TokenKind} (h : rest.head? ≠ some k) :
    Reads (nextIs k) [] rest (· = false) :=
  (reads_nextIs k).mono fun _ hb ↦ by rw [hb, decide_eq_false h]

theorem reads_acceptSymbol (s : Symbol) : Reads (acceptSymbol s) [.symbol s] rest (· = true) :=
  .when (reads_nextIs_of_eq rfl) ((reads_symbol s).last fun _ _ ↦ .pure rfl)

/-- An optional symbol that is not there is no failure. -/
theorem reads_acceptSymbol_of_ne {s : Symbol} (h : rest.head? ≠ some (.symbol s)) :
    Reads (acceptSymbol s) [] rest (· = false) :=
  .unless (reads_nextIs_of_ne h) (.pure rfl)

theorem reads_acceptKeyword_of_ne {k : Keyword} (h : rest.head? ≠ some (.keyword k)) :
    Reads (acceptKeyword k) [] rest (· = false) :=
  .unless (reads_nextIs_of_ne h) (.pure rfl)

theorem reads_acceptWith_of_ne {α : Type} {s : Symbol} (p : Reader α)
    (h : rest.head? ≠ some (.symbol s)) : Reads (acceptWith s p) [] rest (· = false) :=
  .unless (reads_acceptSymbol_of_ne h) (.pure rfl)

theorem reads_nextIsName_name (text : List Char) :
    Reads nextIsName [] (.name text :: rest) (· = true) :=
  reads_peek.last fun _ hk ↦ by
    subst hk
    exact .pure rfl

theorem reads_nextIsName_of_ne (h : ∀ text, rest.head? ≠ some (.name text)) :
    Reads nextIsName [] rest (· = false) :=
  reads_peek.last fun k hk ↦ by
    subst hk
    split
    · exact absurd ‹_› (h _)
    · exact .pure rfl

theorem reads_nextIsClause_of_ne (hfor : rest.head? ≠ some (.keyword .forWord))
    (hasync : rest.head? ≠ some (.keyword .asyncWord)) : Reads nextIsClause [] rest (· = false) :=
  (reads_nextIs_of_ne hfor).last fun _ hfor ↦ (reads_nextIs_of_ne hasync).last fun _ hasync ↦
    .pure (by rw [hfor, hasync]; rfl)

end Tokens

/-! ## Repetition -/

section Lists

variable {α ι : Type} {item : Reader α} {rest : List TokenKind} {kinds : ι → List TokenKind}
  {Q : ι → α → Prop}

/-- Fuel for as many items as there are is enough, since the item that fails to come ends the loop. -/
theorem reads_manyUpTo (hend : Fails item rest) (xs : List ι)
    (h : ∀ x ∈ xs, ∀ rest, Reads item (kinds x) rest (Q x)) {n : Nat} (hn : xs.length ≤ n) :
    Reads (manyUpTo item n) (xs.flatMap kinds) rest (List.Forall₂ Q xs) := by
  induction n generalizing xs with
  | zero =>
    obtain rfl := List.eq_nil_of_length_eq_zero (Nat.le_zero.1 hn)
    exact .pure .nil
  | succ n ih =>
    cases xs with
    | nil => exact hend.bind.orElseReads (.pure .nil)
    | cons x xs =>
      refine .orElse ((h x (by simp) _).bind fun a ha ↦ ?_)
      refine (ih xs (fun y hy ↦ h y (by simp [hy])) (by simpa using hn)).last fun as has ↦ ?_
      exact .pure (.cons ha has)

theorem length_le_flatMap {xs : List ι} (h : ∀ x ∈ xs, kinds x ≠ []) :
    xs.length ≤ (xs.flatMap kinds).length := by
  induction xs with
  | nil => exact Nat.le_refl _
  | cons x xs ih =>
    have hx := List.length_pos_of_ne_nil (h x (by simp))
    have hxs := ih fun y hy ↦ h y (by simp [hy])
    simp only [List.length_cons, List.flatMap_cons, List.length_append]
    omega

/-- A loop takes the items one by one and stops where the next one fails. No item is empty, so there are at
least as many tokens as items. -/
theorem reads_many (hend : Fails item rest) (xs : List ι)
    (h : ∀ x ∈ xs, ∀ rest, Reads item (kinds x) rest (Q x)) (hne : ∀ x ∈ xs, kinds x ≠ []) :
    Reads (many item) (xs.flatMap kinds) rest (List.Forall₂ Q xs) := by
  refine reads_remaining.peekThen fun n hn ↦ reads_manyUpTo hend xs h ?_
  have hlength := length_le_flatMap hne
  rw [hn, List.length_append]
  omega

theorem reads_manyUpTo_nil (hend : Fails item rest) (n : Nat) :
    Reads (manyUpTo item n) [] rest (· = []) := by
  cases n with
  | zero => exact .pure rfl
  | succ n => exact hend.bind.orElseReads (.pure rfl)

theorem reads_many_nil (hend : Fails item rest) : Reads (many item) [] rest (· = []) :=
  reads_remaining.peekThen fun n _ ↦ reads_manyUpTo_nil hend n

theorem reads_many_one {ks : List TokenKind} {P : α → Prop} (h : Reads item ks rest P)
    (hne : ks ≠ []) (hend : Fails item rest) :
    Reads (many item) ks rest fun as ↦ ∃ a, as = [a] ∧ P a := by
  refine reads_remaining.peekThen fun n hn ↦ ?_
  have hlength := List.length_pos_of_ne_nil hne
  rw [List.length_append] at hn
  obtain ⟨n, rfl⟩ := Nat.exists_eq_succ_of_ne_zero (show n ≠ 0 by omega)
  refine .orElse (h.last fun a ha ↦ (reads_manyUpTo_nil hend n).last fun as has ↦ .pure ⟨a, ?_, ha⟩)
  rw [has]

/-- The same for a loop that asks for one item or more; only the later items need tokens of their own. -/
theorem reads_many1 (hend : Fails item rest) (x : ι) (xs : List ι)
    (h : ∀ y ∈ x :: xs, ∀ rest, Reads item (kinds y) rest (Q y)) (hne : ∀ y ∈ xs, kinds y ≠ []) :
    Reads (many1 item) ((x :: xs).flatMap kinds) rest (List.Forall₂ Q (x :: xs)) := by
  refine (h x (by simp) _).bind fun a ha ↦ ?_
  refine (reads_many hend xs (fun y hy ↦ h y (by simp [hy])) hne).last fun as has ↦ ?_
  exact .pure (.cons ha has)

theorem reads_many1_one {ks : List TokenKind} {P : α → Prop} (h : Reads item ks rest P)
    (hend : Fails item rest) : Reads (many1 item) ks rest fun as ↦ ∃ a, as = [a] ∧ P a :=
  h.last fun a ha ↦ (reads_many_nil hend).last fun as has ↦ .pure ⟨a, by rw [has], ha⟩

/-- Items behind another one, each with a comma before it. -/
def moreKinds (kinds : ι → List TokenKind) (xs : List ι) : List TokenKind :=
  xs.flatMap fun x ↦ .symbol .comma :: kinds x

/-- Items with commas between them. -/
def listedKinds (kinds : ι → List TokenKind) (x : ι) (xs : List ι) : List TokenKind :=
  kinds x ++ moreKinds kinds xs

/-- What follows an item of a list: the comma before the next one, or what follows the list. -/
def Follows (rest after : List TokenKind) : Prop :=
  after = rest ∨ ∃ more, after = .symbol .comma :: more

/-- By induction on the items behind the first. After a comma the loop goes on only if the next token can
start an item; otherwise the comma ends the list. -/
theorem reads_commaListUpTo {starts : TokenKind → Bool} (hrest : rest.head? ≠ some (.symbol .comma))
    (x : ι) (xs : List ι)
    (h : ∀ y ∈ x :: xs, ∀ after, Follows rest after → Reads item (kinds y) after (Q y))
    (hstarts : ∀ y ∈ xs, ∃ k ks, kinds y = k :: ks ∧ starts k = true) {n : Nat}
    (hn : xs.length < n) :
    Reads (commaListUpTo item starts n) (listedKinds kinds x xs) rest fun list ↦
      List.Forall₂ Q (x :: xs) list.1 ∧ list.2 = false := by
  induction xs generalizing x n with
  | nil =>
    obtain ⟨n, rfl⟩ := Nat.exists_eq_succ_of_ne_zero (Nat.ne_zero_of_lt hn)
    rw [listedKinds, moreKinds, List.flatMap_nil, List.append_nil]
    refine (h x (by simp) rest (.inl rfl)).last fun a ha ↦ ?_
    exact .unless (reads_acceptSymbol_of_ne hrest) (.pure ⟨.cons ha .nil, rfl⟩)
  | cons y ys ih =>
    obtain ⟨n, rfl⟩ := Nat.exists_eq_succ_of_ne_zero (Nat.ne_zero_of_lt hn)
    have hlist := ih y (fun z hz ↦ h z (by simp [List.mem_cons.1 hz]))
      (fun z hz ↦ hstarts z (by simp [hz])) (n := n) (by simpa using hn)
    obtain ⟨k, ks, hk, hstart⟩ := hstarts y (by simp)
    rw [listedKinds, moreKinds, List.flatMap_cons, List.cons_append, ← moreKinds, ← listedKinds]
    refine (h x (by simp) _ (.inr ⟨_, rfl⟩)).bind fun a ha ↦ ?_
    refine .whenTaken (reads_acceptSymbol _) (reads_peek.peekThen fun next hnext ↦ ?_)
    have hgo : (next.map starts).getD false = true := by
      rw [hnext, listedKinds, hk]
      exact hstart
    rw [if_pos hgo]
    refine hlist.last fun list hlist ↦ ?_
    exact .pure ⟨.cons ha hlist.1, hlist.2⟩

/-- A list without a comma at its end is read item by item, and no such comma is reported. -/
theorem reads_commaList {starts : TokenKind → Bool} (hrest : rest.head? ≠ some (.symbol .comma))
    (x : ι) (xs : List ι)
    (h : ∀ y ∈ x :: xs, ∀ after, Follows rest after → Reads item (kinds y) after (Q y))
    (hne : kinds x ≠ []) (hstarts : ∀ y ∈ xs, ∃ k ks, kinds y = k :: ks ∧ starts k = true) :
    Reads (commaList item starts) (listedKinds kinds x xs) rest fun list ↦
      List.Forall₂ Q (x :: xs) list.1 ∧ list.2 = false := by
  refine reads_remaining.peekThen fun n hn ↦ reads_commaListUpTo hrest x xs h hstarts ?_
  have hfirst := List.length_pos_of_ne_nil hne
  have hlength : xs.length ≤ (moreKinds kinds xs).length := length_le_flatMap (by simp)
  rw [hn, listedKinds, List.length_append, List.length_append]
  omega

theorem reads_commaListBefore_nil (closing : Symbol) :
    Reads (commaListBefore closing item) [.symbol closing] rest (· = ([], false)) :=
  .whenTaken (reads_acceptSymbol closing) (.pure rfl)

/-- The same up to a closing symbol, which is taken as well. No item may start with that symbol. -/
theorem reads_commaListBefore {closing : Symbol} (hclosing : closing ≠ .comma) (x : ι) (xs : List ι)
    (h : ∀ y ∈ x :: xs, ∀ after, Follows (.symbol closing :: rest) after →
      Reads item (kinds y) after (Q y))
    (hstarts : ∀ y ∈ x :: xs, ∃ k ks, kinds y = k :: ks ∧ k ≠ .symbol closing) :
    Reads (commaListBefore closing item) (listedKinds kinds x xs ++ [.symbol closing]) rest
      fun list ↦ List.Forall₂ Q (x :: xs) list.1 := by
  obtain ⟨k, ks, hk, hne⟩ := hstarts x (by simp)
  refine .unless (reads_acceptSymbol_of_ne ?_) ?_
  · simp [listedKinds, hk, hne]
  · refine (reads_commaList (by simpa using hclosing) x xs h (by simp [hk]) fun y hy ↦ ?_).bind
      fun list hlist ↦ (reads_symbol closing).last fun _ _ ↦ .pure hlist.1
    obtain ⟨k, ks, hk, hne⟩ := hstarts y (by simp [hy])
    exact ⟨k, ks, hk, by simpa using hne⟩

end Lists

end StarlarkMacro.Source.Reader
