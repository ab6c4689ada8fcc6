import StarlarkMacro.Proofs.Literal.Encoding
import StarlarkMacro.Proofs.Writer.Operation

/-!
# Spliced arguments

Texts that are spliced into a call stand there as if each of them were an argument of its own: the two calls
end alike in every state, whatever stands in front of the texts and behind them. Without any text this fails,
for a call separates its arguments whether or not they have a text: what is spliced is then an argument of
no characters between two separators.
-/

namespace StarlarkMacro

open Text (ofChars)
open Literal (marshal encode encodeTree encodeItems encodeNode)

namespace EncodingError

/-- The same error up to the place it was found at. -/
def Agrees (e e' : EncodingError) : Prop := e.value = e'.value ∧ e.reason = e'.reason

theorem Agrees.message_eq {e e' : EncodingError} (h : e.Agrees e') (g : Graph) :
    e.message g = e'.message g := by
  rw [EncodingError.message, EncodingError.message, h.1, h.2]

end EncodingError

namespace Writer

/-! ## Arguments of a call -/

/-- What stands behind the context in a call. -/
def argumentsBehind (literals : List (List Char)) : List Char :=
  literals.flatMap ([',', ' '] ++ ·)

theorem callStatement_eq (method : List Char) (literals : List (List Char)) :
    callStatement method literals =
      contextName ++ '.' :: method ++ '(' :: contextName ++ argumentsBehind literals ++ [')'] := by
  rw [callStatement, Datum.intercalate_cons, argumentsBehind]
  simp only [List.cons_append, List.append_assoc]

theorem argumentsBehind_append (literals more : List (List Char)) :
    argumentsBehind (literals ++ more) = argumentsBehind literals ++ argumentsBehind more :=
  List.flatMap_append

/-- Some literals with separators between them stand in a call like the literals themselves. -/
theorem argumentsBehind_intercalate {literals : List (List Char)} (h : literals ≠ []) :
    argumentsBehind [[',', ' '].intercalate literals] = argumentsBehind literals := by
  obtain ⟨literal, literals, rfl⟩ := List.exists_cons_of_ne_nil h
  rw [Datum.intercalate_cons]
  simp [argumentsBehind]

/-- An argument of no characters is a separator more. -/
theorem argumentsBehind_nil_ne (before : List (List Char)) {after after' : List (List Char)}
    (h : argumentsBehind after = argumentsBehind after') :
    argumentsBehind (before ++ [] :: after) ≠ argumentsBehind (before ++ after') := by
  rw [argumentsBehind_append, argumentsBehind_append, ← h]
  intro heq
  have hlength := congrArg List.length (List.append_cancel_left heq)
  simp only [argumentsBehind, List.flatMap_cons, List.length_append, List.length_cons,
    List.length_nil] at hlength
  omega

/-- Literals that give one call, or errors that agree. -/
inductive Alike :
    Except EncodingError (List (List Char)) → Except EncodingError (List (List Char)) → Prop
  | ok {literals literals' : List (List Char)}
    (h : argumentsBehind literals = argumentsBehind literals') : Alike (.ok literals) (.ok literals')
  | error {e e' : EncodingError} (h : e.Agrees e') : Alike (.error e) (.error e')

section Literals

variable {g : Graph}

theorem argumentLiterals_append (g : Graph) (i : Nat) (vs ws : List Value) :
    argumentLiterals g i (vs ++ ws) =
      do return (← argumentLiterals g i vs) ++ (← argumentLiterals g (i + vs.length) ws) := by
  induction vs generalizing i with
  | nil =>
    cases h : argumentLiterals g i ws <;> simp [argumentLiterals, h, bind, Except.bind, pure, Except.pure]
  | cons v vs ih =>
    simp only [List.cons_append, argumentLiterals, ih, List.length_cons, bind_assoc, pure_bind]
    have hnumber : i + 1 + vs.length = i + (vs.length + 1) := by omega
    rw [hnumber]

theorem argumentLiterals_singleton (g : Graph) (i : Nat) (v : Value) :
    argumentLiterals g i [v] = ((marshal g v).mapError (EncodingError.under i)).map fun l ↦ [l] := by
  rw [argumentLiterals]
  cases marshal g v <;> rfl

theorem Alike.append {i j : Nat} {vs vs' ws ws' : List Value}
    (hvs : Alike (argumentLiterals g i vs) (argumentLiterals g j vs'))
    (hws : Alike (argumentLiterals g (i + vs.length) ws) (argumentLiterals g (j + vs'.length) ws')) :
    Alike (argumentLiterals g i (vs ++ ws)) (argumentLiterals g j (vs' ++ ws')) := by
  rw [argumentLiterals_append, argumentLiterals_append]
  generalize argumentLiterals g i vs = literals at hvs
  generalize argumentLiterals g j vs' = literals' at hvs
  generalize argumentLiterals g (i + vs.length) ws = more at hws
  generalize argumentLiterals g (j + vs'.length) ws' = more' at hws
  cases hvs with
  | error he => exact .error he
  | ok h =>
    cases hws with
    | error he => exact .error he
    | ok h' =>
      apply Alike.ok
      rw [argumentsBehind_append, argumentsBehind_append, h, h']

theorem length_of_argumentLiterals {i : Nat} {vs : List Value} {literals : List (List Char)}
    (h : argumentLiterals g i vs = .ok literals) : literals.length = vs.length := by
  induction vs generalizing i literals with
  | nil =>
    cases h
    rfl
  | cons v vs ih =>
    obtain ⟨literal, -, h⟩ := Literal.exists_of_bind_eq_ok h
    obtain ⟨rest, hrest, h⟩ := Literal.exists_of_bind_eq_ok h
    cases h
    simp [ih hrest]

/-- The numbers of the arguments only matter for the place of an error. -/
theorem alike_argumentLiterals (i j : Nat) (vs : List Value) :
    Alike (argumentLiterals g i vs) (argumentLiterals g j vs) := by
  induction vs generalizing i j with
  | nil => exact .ok rfl
  | cons v vs ih =>
    have hv : Alike (argumentLiterals g i [v]) (argumentLiterals g j [v]) := by
      rw [argumentLiterals_singleton, argumentLiterals_singleton]
      cases marshal g v with
      | error e => exact .error ⟨rfl, rfl⟩
      | ok literal => exact .ok rfl
    exact hv.append (ih (i + 1) (j + 1))

end Literals

/-! ## Members of a splice -/

/-- A text without lone surrogates, whatever its class. -/
def IsCleanText (v : Value) : Prop := ∃ cs, v.text? = some (ofChars cs)

section Members

variable {g : Graph} {node : List Nat → Nat → Except EncodingError Text} {active : List Nat}

/-- Inside a container a text has the literal it has by itself. -/
theorem encodeTree_of_isCleanText {v : Value} (h : IsCleanText v) :
    encodeTree g node active v = (marshal g v).map ofChars := by
  obtain ⟨cs, hcs⟩ := h
  cases v with
  | text t derived =>
    obtain rfl : t = ofChars cs := by simpa [Value.text?] using hcs
    simp [encodeTree, marshal, encode, Literal.finish, Text.quoted_ofChars, bind, Except.bind, Except.map]
  | labelled t bytes =>
    cases hbytes : Literal.decodeUtf8? bytes with
    | none => simp [encodeTree, marshal, encode, Literal.ownLiteral, hbytes, bind, Except.bind, Except.map]
    | some cs =>
      simp [encodeTree, marshal, encode, Literal.ownLiteral, hbytes, Literal.finish, bind, Except.bind,
        Except.map]
  | _ => cases hcs

/-- The members of a splice have the literals they have as arguments, or the same error. -/
theorem encodeItems_of_isCleanText {xs : List Value} (h : ∀ x ∈ xs, IsCleanText x) (i j : Nat) :
    (∃ literals, argumentLiterals g j xs = .ok literals ∧
      encodeItems g node active i xs = .ok (literals.map ofChars)) ∨
    ∃ e e', argumentLiterals g j xs = .error e ∧ encodeItems g node active i xs = .error e' ∧
      e'.Agrees e := by
  induction xs generalizing i j with
  | nil => exact .inl ⟨[], rfl, rfl⟩
  | cons x xs ih =>
    simp only [argumentLiterals, encodeItems, encodeTree_of_isCleanText (h x (by simp))]
    cases marshal g x with
    | error e => exact .inr ⟨_, _, rfl, rfl, rfl, rfl⟩
    | ok literal =>
      obtain ⟨literals, harguments, hitems⟩ | ⟨e, e', harguments, hitems, he⟩ :=
        ih (fun y hy ↦ h y (by simp [hy])) (i + 1) (j + 1)
      · exact .inl ⟨literal :: literals, by rw [harguments]; rfl, by
          simp only [Except.map, mapError_ok, hitems]; rfl⟩
      · exact .inr ⟨e, e', by rw [harguments]; rfl, by
          simp only [Except.map, mapError_ok, hitems]; rfl, he⟩

end Members

section Spliced

variable {g : Graph} {spliced : Value} {xs : List Value}

/-- The literal of a splice is that of its members with separators between them. -/
theorem marshal_of_resolve_eq (h : spliced.resolve g = .arguments xs)
    (hxs : ∀ x ∈ xs, IsCleanText x) (j : Nat) :
    (∃ literals, argumentLiterals g j xs = .ok literals ∧
      marshal g spliced = .ok ([',', ' '].intercalate literals)) ∨
    ∃ e e', argumentLiterals g j xs = .error e ∧ marshal g spliced = .error e' ∧ e'.Agrees e := by
  obtain ⟨depth, active, hencode⟩ := Literal.exists_encode_eq h
  have htexts : Literal.firstNotText? xs = none := by
    rw [Literal.firstNotText?, List.find?_eq_none]
    intro p hp
    obtain ⟨cs, hcs⟩ := hxs p.1 (List.fst_mem_of_mem_zipIdx hp)
    simp [hcs]
  rw [marshal, hencode, encodeTree, htexts]
  obtain ⟨literals, harguments, hitems⟩ | ⟨e, e', harguments, hitems, he⟩ :=
    @encodeItems_of_isCleanText g (encodeNode g depth) [] xs hxs 0 j
  · refine .inl ⟨literals, harguments, ?_⟩
    have hjoin : Literal.commaSeparated (literals.map ofChars) =
        ofChars ([',', ' '].intercalate literals) := Text.join_map_ofChars _ _
    simp only [hitems, bind, Except.bind, hjoin, Literal.finish, Text.chars?_ofChars, pure,
      Except.pure, mapError_ok]
  · exact .inr ⟨e, e'.under 0, harguments, by rw [hitems]; rfl, he⟩

/-- As arguments of a call, a splice of some texts and the texts themselves are alike. -/
theorem alike_spliced (h : spliced.resolve g = .arguments xs) (hne : xs ≠ [])
    (hxs : ∀ x ∈ xs, IsCleanText x) (i j : Nat) :
    Alike (argumentLiterals g i [spliced]) (argumentLiterals g j xs) := by
  obtain ⟨literals, harguments, hmarshal⟩ | ⟨e, e', harguments, hmarshal, he⟩ :=
    marshal_of_resolve_eq h hxs j
  · have hliterals : literals ≠ [] := by
      intro hnil
      have hlength := length_of_argumentLiterals harguments
      rw [hnil] at hlength
      exact hne (List.eq_nil_of_length_eq_zero hlength.symm)
    rw [harguments, argumentLiterals_singleton, hmarshal]
    exact .ok (argumentsBehind_intercalate hliterals)
  · rw [harguments, argumentLiterals_singleton, hmarshal]
    exact .error he

/-- Without a text a splice is an argument of no characters. -/
theorem exists_argumentLiterals_of_nil (h : spliced.resolve g = .arguments []) {before after : List Value}
    {literals : List (List Char)} (hliterals : argumentLiterals g 1 (before ++ after) = .ok literals) :
    ∃ literals', argumentLiterals g 1 (before ++ [spliced] ++ after) = .ok literals' ∧
      argumentsBehind literals' ≠ argumentsBehind literals := by
  have hmarshal : marshal g spliced = .ok [] := by
    obtain ⟨none, hnone, hmarshal⟩ | ⟨e, e', hnone, -⟩ := marshal_of_resolve_eq h (by simp) 0
    all_goals cases hnone
    exact hmarshal
  rw [argumentLiterals_append] at hliterals
  obtain ⟨first, hfirst, hliterals⟩ := Literal.exists_of_bind_eq_ok hliterals
  obtain ⟨last, hlast, hliterals⟩ := Literal.exists_of_bind_eq_ok hliterals
  cases hliterals
  have hshifted := alike_argumentLiterals (g := g) (1 + (before ++ [spliced]).length)
    (1 + before.length) after
  rw [hlast] at hshifted
  generalize hlast' : argumentLiterals g (1 + (before ++ [spliced]).length) after = shifted at hshifted
  cases hshifted with
  | @ok last' _ hbehind =>
    refine ⟨first ++ [] :: last', ?_, argumentsBehind_nil_ne first hbehind⟩
    rw [argumentLiterals_append, argumentLiterals_append, hfirst, argumentLiterals_singleton, hmarshal,
      hlast']
    simp [bind, Except.bind, pure, Except.pure, Except.map, mapError_ok]

end Spliced

/-! ## The call -/

/-- Two calls leave one state, and both succeed or fail with one message. -/
def EndsAlike {α : Type} (g : Graph) (r r' : Except Failure α × Writer) : Prop :=
  r.2 = r'.2 ∧ r.1.mapError (Failure.message g) = r'.1.mapError (Failure.message g)

section Call

variable {g : Graph} {w : Writer}

theorem EndsAlike.refl {α : Type} (r : Except Failure α × Writer) : EndsAlike g r r := ⟨rfl, rfl⟩

theorem EndsAlike.bind {α β : Type} (x : WriterM α) {f f' : α → WriterM β}
    (h : ∀ a w, EndsAlike g ((f a).run w) ((f' a).run w)) :
    EndsAlike g ((x >>= f).run w) ((x >>= f').run w) := by
  rw [run_bind, run_bind]
  rcases x.run w with ⟨e | a, w₁⟩
  · exact .refl _
  · exact h a w₁

/-- Alike arguments make calls that end alike. -/
theorem endsAlike_of_alike {vs vs' : List Value}
    (h : Alike (argumentLiterals g 1 vs) (argumentLiterals g 1 vs')) (name : Value) :
    EndsAlike g ((writeCommand g name vs).run w) ((writeCommand g name vs').run w) := by
  refine .bind _ fun _ _ ↦ .bind _ fun used _ ↦ .bind _ fun _ w ↦ ?_
  generalize argumentLiterals g 1 vs = literals at h
  generalize argumentLiterals g 1 vs' = literals' at h
  cases h with
  | ok h =>
    simp only [orRefuse, pure_bind, callStatement_eq, h]
    exact .refl _
  | error he =>
    simp only [orRefuse, run_bind, run_refuse]
    refine ⟨rfl, ?_⟩
    simp only [mapError_error, Failure.message, WriterError.message, he.message_eq g]

/-- A command that succeeds has good arguments and stores its line. Any other good arguments succeed there
too, and their line is stored behind the same lines. -/
theorem exists_stored_of_run_writeCommand {name : Value} {vs : List Value}
    (h : ((writeCommand g name vs).run w).1 = .ok ()) :
    ∃ used literals stored, argumentLiterals g 1 vs = .ok literals ∧
      ∀ vs' literals', argumentLiterals g 1 vs' = .ok literals' →
        ((writeCommand g name vs').run w).1 = .ok () ∧
        ((writeCommand g name vs').run w).2.sink.stored =
          stored ++ [w.pending.render (callStatement used literals')] := by
  cases hcurrent : w.current with
  | none =>
    rw [writeCommand, run_bind, run_requireMacro_of_idle w hcurrent] at h
    cases h
  | some current =>
    cases hname : Identifier.ofValue? name with
    | none =>
      rw [run_writeCommand_of_invalid w hcurrent hname] at h
      cases h
    | some used =>
      rw [run_writeCommand_of_valid w hcurrent hname] at h
      obtain hrun | ⟨before, line, after, -, -, hrun⟩ := run_writePending w
      · cases hvs : argumentLiterals g 1 vs with
        | error e =>
          simp only [run_bind, hrun, hvs, orRefuse, run_refuse] at h
          cases h
        | ok literals =>
          simp only [run_bind, hrun, hvs, orRefuse, run_pure, run_writeStatement] at h
          split at h
          · cases h
          · rename_i htaken
            refine ⟨used, literals, w.drained.sink.stored, rfl, fun vs' literals' hvs' ↦ ?_⟩
            rw [run_writeCommand_of_valid w hcurrent hname]
            simp only [run_bind, hrun, hvs', orRefuse, run_pure, run_writeStatement, if_neg htaken]
            exact ⟨trivial, rfl⟩
      · rw [run_bind, hrun] at h
        cases h

end Call

variable {g : Graph} {spliced : Value} {xs : List Value}

/-- Texts spliced into a call end it like the texts themselves in their place, in every state and between any
other arguments. Without a text to splice the line is always another one. -/
theorem run_writeCommand_spliced (hspliced : spliced.resolve g = .arguments xs)
    (hxs : ∀ x ∈ xs, IsCleanText x) (w : Writer) (name : Value) (before after : List Value) :
    let run := (writeCommand g name (before ++ spliced :: after)).run w
    let plain := (writeCommand g name (before ++ xs ++ after)).run w
    (xs ≠ [] → EndsAlike g run plain) ∧
      (xs = [] → plain.1 = .ok () → run.1 = .ok () ∧ run.2.sink.stored ≠ plain.2.sink.stored) := by
  have hrun : before ++ spliced :: after = before ++ [spliced] ++ after := by simp
  rw [hrun]
  constructor
  · intro hne
    apply endsAlike_of_alike
    apply Alike.append
    · exact (alike_argumentLiterals 1 1 before).append (alike_spliced hspliced hne hxs _ _)
    · exact alike_argumentLiterals _ _ after
  · rintro rfl hplain
    rw [List.append_nil] at hplain ⊢
    obtain ⟨used, literals, stored, hliterals, hstored⟩ := exists_stored_of_run_writeCommand hplain
    obtain ⟨literals', hliterals', hne⟩ := exists_argumentLiterals_of_nil hspliced hliterals
    obtain ⟨hok, hspliced⟩ := hstored _ _ hliterals'
    refine ⟨hok, fun heq ↦ hne ?_⟩
    rw [hspliced, (hstored _ _ hliterals).2, List.append_cancel_left_eq, List.singleton_inj] at heq
    simpa [StatementBuffer.render, callStatement_eq] using heq

/-- Texts shared under a number, one of them with the characters that end a call. -/
def sharedTexts : Graph := ⟨[.arguments [.text "a\"), (" false, .text "\x07" true]]⟩

/-- A macro was begun on a sink that takes everything. -/
def begunWriter : Writer := (Writer.new .willing).begun "gen".toList

theorem run_writeCommand_spliced_sharedTexts :
    EndsAlike sharedTexts
      ((writeCommand sharedTexts (.text "if" false) [.int 1 false, .node 0, .none]).run begunWriter)
      ((writeCommand sharedTexts (.text "if" false)
        [.int 1 false, .text "a\"), (" false, .text "\x07" true, .none]).run begunWriter) := by
  have htexts : ∀ x ∈ [Value.text "a\"), (" false, .text "\x07" true], IsCleanText x := by
    simp only [List.forall_mem_cons]
    exact ⟨⟨_, rfl⟩, ⟨_, rfl⟩, by simp⟩
  exact (@run_writeCommand_spliced sharedTexts (.node 0) _ rfl htexts begunWriter (.text "if" false)
    [.int 1 false] [.none]).1 (by simp)

/-- Nothing spliced in front of a text leaves two separators in a row, and the line is not that of the call
without the splice. -/
theorem stored_spliced_nothing_ne :
    let run := (writeCommand .empty (.text "x" false) [.arguments [], .none]).run begunWriter
    let plain := (writeCommand .empty (.text "x" false) [.none]).run begunWriter
    run.2.sink.stored.getLast? = some "    ctx.x(ctx, , None)\n".toList ∧
      plain.2.sink.stored.getLast? = some "    ctx.x(ctx, None)\n".toList ∧
      run.2.sink.stored ≠ plain.2.sink.stored := by
  decide +kernel

end Writer

end StarlarkMacro
