import StarlarkMacro.Proofs.Literal.Parts
import StarlarkMacro.Proofs.Literal.Sharing

/-!
# Values without a literal of their own

A value that is no container is bad if it has no literal wherever it stands, and then has one error. Of a
marshaler it counts what its method does: it may raise, or return what is no literal. Spliced arguments are
bad for the first of them that is no text, before any of them has its literal, and else for what the plain
list of them fails for. Being bad is the same as failing.
-/

namespace StarlarkMacro

namespace Graph

/-- No node stands for another node. -/
def IsDirect (g : Graph) : Prop := ∀ v ∈ g.nodes, ∀ id, v ≠ .node id

theorem IsDirect.node_ne_node {g : Graph} (hg : g.IsDirect) (id j : Nat) : g.node id ≠ .node j := by
  obtain ⟨hmem, -⟩ | hnone := g.node_cases id
  · exact hg _ hmem j
  · rw [hnone]
    exact Value.noConfusion

end Graph

theorem Value.resolve_of_ne_node {g : Graph} {v : Value} (h : ∀ id, v ≠ .node id) :
    v.resolve g = v := by
  cases v with
  | node id => exact absurd rfl (h id)
  | _ => rfl

theorem Graph.IsDirect.resolve_node {g : Graph} (hg : g.IsDirect) (id : Nat) :
    (g.node id).resolve g = g.node id := Value.resolve_of_ne_node (hg.node_ne_node id)

namespace Literal

open Text (IsClean)

/-- A value that has no literal, wherever it stands, and the error about it. -/
inductive IsBad (g : Graph) : Value → EncodingError → Prop
  | own {v : Value} {r : Reason} (hr : v.ownFault? = some r) : IsBad g v ⟨v, [], r⟩
  | labelled {t : Text} {bytes : List UInt8} (hbytes : decodeUtf8? bytes = none) :
      IsBad g (.labelled t bytes) ⟨.labelled t bytes, [], .invalidUtf8⟩
  | returnedBytes {result : Value} {kind : BinaryKind} {bytes : List UInt8}
      (hresult : result.resolve g = .binary kind bytes) (hkind : kind ≠ .memoryview)
      (hbytes : decodeUtf8? bytes = none) :
      IsBad g (.returning result) ⟨.returning result, [], .invalidUtf8⟩
  | returned {result : Value}
      (hresult : ∀ kind bytes, result.resolve g = .binary kind bytes → kind = .memoryview) :
      IsBad g (.returning result)
        ⟨.returning result, [], .returned ((result.resolve g).typeName g)⟩
  | raised (error : Raised) (argument : Text) :
      IsBad g (.raising error argument) ⟨.raising error argument, [], .raised error argument⟩
  /-- An encoding error that a marshaler raises is passed on. -/
  | refused (blamed : Value) (reason : Text) :
      IsBad g (.refusing blamed reason) ⟨blamed, [0], .stated reason⟩
  | inner {before after : List Char} {v : Value} {e : EncodingError}
      (he : marshal g v = .error e) : IsBad g (.wrapping before v after) (e.under 0)
  /-- The first member that is no text, before any member has its literal. -/
  | argument {before after : List Value} {v : Value} (hbefore : ∀ u ∈ before, u.text? ≠ none)
      (hv : v.text? = none) :
      IsBad g (.arguments (before ++ v :: after)) ⟨v, [0, before.length], .memberNotText⟩
  | arguments {items : List Value} {e : EncodingError} (hitems : ∀ u ∈ items, u.text? ≠ none)
      (he : marshal g (.sequence .list items) = .error e) : IsBad g (.arguments items) (e.under 0)

/-! ## The error of a bad value -/

section Errors

variable {g : Graph}

theorem mapError_eq_error_iff {ε ε' α : Type} {f : ε → ε'} {x : Except ε α} {e : ε'} :
    x.mapError f = .error e ↔ ∃ cause, x = .error cause ∧ e = f cause := by
  cases x with
  | error cause => simp [Except.mapError, eq_comm]
  | ok a => simp [Except.mapError]

/-- A failure comes from the first part, or from the second with the result of the first. -/
theorem bind_eq_error_iff {ε α β : Type} {x : Except ε α} {f : α → Except ε β} {e : ε} :
    x >>= f = .error e ↔ x = .error e ∨ ∃ a, x = .ok a ∧ f a = .error e := by
  cases x with
  | error cause => simp [bind, Except.bind]
  | ok a => simp [bind, Except.bind]

theorem bind_pure_eq_error_iff {ε α β : Type} {f : α → β} {x : Except ε α} {e : ε} :
    (x >>= fun a ↦ pure (f a)) = .error e ↔ x = .error e := by
  simp [bind_eq_error_iff, pure, Except.pure]

theorem finish_eq_error_iff {v : Value} {t : Text} {e : EncodingError} :
    finish v t = .error e ↔ ¬ IsClean t ∧ e = ⟨v, [], .loneSurrogate⟩ := by
  unfold finish
  cases hchars : t.chars? with
  | some cs =>
    have hclean : IsClean t := Text.eq_ofChars_of_chars? hchars ▸ Text.isClean_ofChars cs
    simp [hclean]
  | none =>
    have hclean : ¬ IsClean t := by
      intro hclean
      obtain ⟨cs, rfl⟩ := hclean.exists_eq_ofChars
      rw [Text.chars?_ofChars] at hchars
      cases hchars
    simp [hclean, eq_comm]

theorem find?_isNone_iff {items : List Value} {v : Value} {k i : Nat} :
    ((items.zipIdx k).find? fun p ↦ p.1.text?.isNone) = some (v, i) ↔
      ∃ before after, items = before ++ v :: after ∧ i = k + before.length ∧
        (∀ u ∈ before, u.text? ≠ none) ∧ v.text? = none := by
  induction items generalizing k with
  | nil => simp
  | cons u items ih =>
    rw [List.zipIdx_cons, List.find?_cons]
    cases hu : u.text? with
    | none =>
      simp only [Option.isNone_none, Option.some.injEq, Prod.mk.injEq]
      constructor
      · rintro ⟨rfl, rfl⟩
        exact ⟨[], items, rfl, rfl, by simp, hu⟩
      · rintro ⟨before, after, hitems, rfl, hbefore, -⟩
        cases before with
        | nil => exact ⟨(List.cons.inj hitems).1, rfl⟩
        | cons first before =>
          obtain ⟨rfl, -⟩ := List.cons.inj hitems
          exact absurd hu (hbefore u List.mem_cons_self)
    | some t =>
      simp only [Option.isNone_some, ih]
      constructor
      · rintro ⟨before, after, rfl, rfl, hbefore, hv⟩
        refine ⟨u :: before, after, rfl, ?_, List.forall_mem_cons.2 ⟨by simp [hu], hbefore⟩, hv⟩
        rw [List.length_cons, Nat.add_right_comm, Nat.add_assoc]
      · rintro ⟨before, after, hitems, rfl, hbefore, hv⟩
        cases before with
        | nil =>
          obtain ⟨rfl, -⟩ := List.cons.inj hitems
          rw [hu] at hv
          cases hv
        | cons first before =>
          obtain ⟨rfl, rfl⟩ := List.cons.inj hitems
          refine ⟨before, after, rfl, ?_, (List.forall_mem_cons.1 hbefore).2, hv⟩
          rw [List.length_cons, Nat.add_right_comm, Nat.add_assoc]

/-- The first member that is no text, with its place among the arguments. -/
theorem firstNotText?_eq_some_iff {items : List Value} {v : Value} {i : Nat} :
    firstNotText? items = some (v, i) ↔
      ∃ before after, items = before ++ v :: after ∧ i = before.length ∧
        (∀ u ∈ before, u.text? ≠ none) ∧ v.text? = none := by
  unfold firstNotText?
  simpa only [Nat.zero_add] using @find?_isNone_iff items v 0 i

theorem firstNotText?_eq_none_iff {items : List Value} :
    firstNotText? items = none ↔ ∀ u ∈ items, u.text? ≠ none := by
  rw [firstNotText?, List.find?_eq_none]
  constructor
  · intro h u hu
    obtain ⟨i, hi⟩ := List.mem_iff_getElem?.1 hu
    simpa using h (u, i) (List.mem_zipIdx_iff_getElem?.2 hi)
  · intro h p hp
    simpa using h p.1 (List.fst_mem_of_mem_zipIdx hp)

/-- The brackets of a list hold no surrogate. -/
theorem isClean_listText_iff {parts : List Text} :
    IsClean (listText parts) ↔ IsClean (commaSeparated parts) := by
  constructor
  · intro h
    exact h.of_append.1.of_append.2
  · intro h
    exact ((Text.isClean_ofChars _).append h).append (Text.isClean_ofChars _)

/-- Spliced texts fail for what the plain list of them fails for. -/
theorem encode_arguments_eq_error_iff {items : List Value} (hitems : ∀ u ∈ items, u.text? ≠ none)
    {e : EncodingError} : encode g (.arguments items) = .error e ↔
      ∃ cause, marshal g (.sequence .list items) = .error cause ∧ e = cause.under 0 := by
  rw [encode, encodeTree, firstNotText?_eq_none_iff.2 hitems]
  simp only [mapError_eq_error_iff]
  apply exists_congr
  intro cause
  apply and_congr_left'
  simp only [marshal_eq_error_iff, encode, encodeTree, ↓bind_pure_eq_error_iff, bind_eq_error_iff]
  cases encodeItems g (encodeNode g g.depth) [] 0 items with
  | error e' => simp [Except.map]
  | ok parts =>
    have hclean : IsClean (sequenceText .list parts) ↔ IsClean (commaSeparated parts) :=
      isClean_listText_iff
    simp [Except.map, finish_eq_error_iff, hclean]

/-- A wrapping fails for what the wrapped value fails for. -/
theorem encode_wrapping_eq_error_iff {before after : List Char} {v : Value} {e : EncodingError} :
    encode g (.wrapping before v after) = .error e ↔
      ∃ cause, marshal g v = .error cause ∧ e = cause.under 0 := by
  rw [encode, encodeTree]
  simp only [mapError_eq_error_iff]
  apply exists_congr
  intro cause
  apply and_congr_left'
  simp only [marshal_eq_error_iff, encode, ↓bind_pure_eq_error_iff, bind_eq_error_iff]

theorem encode_arguments_of_notText {before after : List Value} {v : Value}
    (hbefore : ∀ u ∈ before, u.text? ≠ none) (hv : v.text? = none) :
    encode g (.arguments (before ++ v :: after)) =
      .error ⟨v, [0, before.length], .memberNotText⟩ := by
  have hfirst : firstNotText? (before ++ v :: after) = some (v, before.length) :=
    firstNotText?_eq_some_iff.2 ⟨before, after, rfl, rfl, hbefore, hv⟩
  rw [encode, encodeTree, hfirst]

/-- Arguments fail for a member that is no text, or as the list of their members does. -/
theorem isBad_arguments_iff {items : List Value} {e : EncodingError} :
    IsBad g (.arguments items) e ↔ encode g (.arguments items) = .error e := by
  cases hfirst : firstNotText? items with
  | some found =>
    rcases found with ⟨v, i⟩
    obtain ⟨before, after, rfl, rfl, hbefore, hv⟩ := firstNotText?_eq_some_iff.1 hfirst
    have hencode : encode g (.arguments (before ++ v :: after)) =
        .error ⟨v, [0, before.length], .memberNotText⟩ := encode_arguments_of_notText hbefore hv
    constructor
    · intro h
      generalize hitems : before ++ v :: after = items at h
      cases h with
      | own hr => cases hr
      | argument hbefore' hv' =>
        rw [← encode_arguments_of_notText hbefore' hv']
      | arguments hall _ =>
        exact absurd hv (hall v (hitems ▸ List.mem_append_right before List.mem_cons_self))
    · intro h
      obtain rfl := Except.error.inj (hencode.symm.trans h)
      exact .argument hbefore hv
  | none =>
    have hitems := firstNotText?_eq_none_iff.1 hfirst
    rw [encode_arguments_eq_error_iff hitems]
    constructor
    · intro h
      generalize hlist : items = list at h
      cases h with
      | own hr => cases hr
      | @argument before after v _ hv =>
        exact absurd hv (hitems v (hlist ▸ List.mem_append_right before List.mem_cons_self))
      | @arguments _ cause _ he =>
        subst hlist
        exact ⟨cause, he, rfl⟩
    · rintro ⟨cause, he, rfl⟩
      exact .arguments hitems he

theorem ownLiteral_eq_error_iff {v : Value} {bytes : List UInt8} {e : EncodingError} :
    ownLiteral v bytes = .error e ↔ decodeUtf8? bytes = none ∧ e = ⟨v, [], .invalidUtf8⟩ := by
  unfold ownLiteral
  split
  · simp [*]
  · simp [*, eq_comm]

theorem isBad_returning_iff {result : Value} {e : EncodingError} :
    IsBad g (.returning result) e ↔ encode g (.returning result) = .error e := by
  rw [encode, encodeTree]
  constructor
  · intro h
    cases h with
    | own hr => cases hr
    | @returnedBytes _ kind bytes hresult hkind hbytes =>
      rw [hresult]
      cases kind with
      | memoryview => exact absurd rfl hkind
      | bytes | bytearray => exact ownLiteral_eq_error_iff.2 ⟨hbytes, rfl⟩
    | returned hresult =>
      split
      · cases hresult _ _ ‹_›
      · cases hresult _ _ ‹_›
      · rfl
  · intro h
    split at h
    · obtain ⟨hbytes, rfl⟩ := ownLiteral_eq_error_iff.1 h
      exact .returnedBytes ‹_› BinaryKind.noConfusion hbytes
    · obtain ⟨hbytes, rfl⟩ := ownLiteral_eq_error_iff.1 h
      exact .returnedBytes ‹_› BinaryKind.noConfusion hbytes
    · rename_i hbytes hbytearray
      cases h
      apply IsBad.returned
      intro kind bytes hresult
      cases kind with
      | memoryview => rfl
      | bytes => exact absurd hresult (hbytes bytes)
      | bytearray => exact absurd hresult (hbytearray bytes)

/-- Being bad is having no literal, for what is neither a container nor stands for another value. -/
theorem isBad_iff {v : Value} {e : EncodingError} (hnode : ∀ id, v ≠ .node id)
    (hcontainer : v.isContainer = false) : IsBad g v e ↔ encode g v = .error e := by
  cases v with
  | node id => exact absurd rfl (hnode id)
  | sequence | mapping | range => cases hcontainer
  | arguments items => exact isBad_arguments_iff
  | returning result => exact isBad_returning_iff
  | wrapping before v after =>
    rw [encode_wrapping_eq_error_iff]
    constructor
    · intro h
      cases h with
      | own hr => cases hr
      | inner he => exact ⟨_, he, rfl⟩
    · rintro ⟨cause, he, rfl⟩
      exact .inner he
  | labelled t bytes =>
    rw [encode, encodeTree, ownLiteral_eq_error_iff]
    constructor
    · intro h
      cases h with
      | own hr => cases hr
      | labelled hbytes => exact ⟨hbytes, rfl⟩
    · rintro ⟨hbytes, rfl⟩
      exact .labelled hbytes
  | raising error argument =>
    constructor
    · intro h
      cases h with
      | own hr => cases hr
      | raised => rfl
    · intro h
      cases h
      exact .raised error argument
  | refusing blamed reason =>
    constructor
    · intro h
      cases h with
      | own hr => cases hr
      | refused => rfl
    · intro h
      cases h
      exact .refused blamed reason
  | float x derived =>
    rw [encode, encodeTree]
    have hown : (Value.float x derived).ownFault? =
        if x.isFinite then none else some .notFinite := by rw [Value.ownFault?]
    constructor
    · intro h
      cases h with
      | own hr =>
        rw [hown] at hr
        split at hr
        · cases hr
        · cases hr
          rw [if_neg ‹_›]
    · intro h
      split at h
      · cases h
      · cases h
        exact .own (hown.trans (if_neg ‹_›))
  | none | bool | int | text =>
    constructor
    · intro h
      cases h with
      | own hr => cases hr
    · intro h
      cases h
  | binary | set | complex | object | marshalerClass =>
    constructor
    · intro h
      cases h with
      | own hr =>
        cases hr
        rfl
    · intro h
      cases h
      exact .own rfl

end Errors

end Literal

end StarlarkMacro
