import StarlarkMacro.Source.Layout

/-!
# Text that is laid out in pieces

A piece is the text of one token, perhaps with a space before it. If every piece is the longest token where
it stands, scanning the text of some pieces gives their tokens. The potential of a state bounds the steps
that are left, so the fuel for a whole text is enough.
-/

namespace StarlarkMacro.Source

structure Piece where
  spaced : Bool
  kind : TokenKind
  text : List Char

namespace Piece

def gap (p : Piece) : List Char := if p.spaced then [' '] else []

def source (p : Piece) : List Char := p.gap ++ p.text

def sourceOf (ps : List Piece) : List Char := ps.flatMap source

/-- Where the token of a piece starts if the piece starts at `offset`. -/
def startFrom (p : Piece) (offset : Nat) : Nat := offset + p.gap.length

def tokensFrom : Nat → List Piece → List Token
  | _, [] => []
  | offset, p :: ps =>
    ⟨p.kind, p.startFrom offset, p.startFrom offset + p.text.length⟩ ::
      tokensFrom (p.startFrom offset + p.text.length) ps

@[simp] theorem sourceOf_nil : sourceOf [] = [] := rfl

@[simp] theorem sourceOf_cons (p : Piece) (ps : List Piece) :
    sourceOf (p :: ps) = p.source ++ sourceOf ps := rfl

@[simp] theorem sourceOf_append (ps qs : List Piece) :
    sourceOf (ps ++ qs) = sourceOf ps ++ sourceOf qs := List.flatMap_append

@[simp] theorem map_kind_tokensFrom (offset : Nat) (ps : List Piece) :
    (tokensFrom offset ps).map Token.kind = ps.map kind := by
  induction ps generalizing offset with
  | nil => rfl
  | cons p ps ih => rw [tokensFrom, List.map_cons, List.map_cons, ih]

/-- A piece ends where its source ends, whether or not a space comes first. -/
theorem startFrom_add (p : Piece) (offset : Nat) :
    p.startFrom offset + p.text.length = offset + p.source.length := by
  rw [startFrom, source, List.length_append, Nat.add_assoc]

/-- The second list of pieces starts where the source of the first one ends. -/
theorem tokensFrom_append (offset : Nat) (ps qs : List Piece) :
    tokensFrom offset (ps ++ qs) =
      tokensFrom offset ps ++ tokensFrom (offset + (sourceOf ps).length) qs := by
  induction ps generalizing offset with
  | nil => rfl
  | cons p ps ih =>
    rw [List.cons_append, tokensFrom, tokensFrom, ih, startFrom_add, sourceOf_cons,
      List.length_append, Nat.add_assoc]
    rfl

/-- No piece is the word that returns. -/
def ReturnFree (ps : List Piece) : Prop := ∀ p ∈ ps, p.kind ≠ .keyword .returnWord

theorem returnFree_nil : ReturnFree [] := List.forall_mem_nil _

theorem ReturnFree.cons {p : Piece} {ps : List Piece} (hp : p.kind ≠ .keyword .returnWord)
    (hps : ReturnFree ps) : ReturnFree (p :: ps) := List.forall_mem_cons.2 ⟨hp, hps⟩

theorem ReturnFree.append {ps qs : List Piece} (hps : ReturnFree ps) (hqs : ReturnFree qs) :
    ReturnFree (ps ++ qs) := List.forall_mem_append.2 ⟨hps, hqs⟩

end Piece

namespace Layout

open Piece (sourceOf tokensFrom)

/-! ## Steps -/

/-- More than the steps that are left before the text ends. -/
def State.potential (s : State) : Nat := 2 * s.rest.length + if s.lineStart then 1 else 0

/-- Some steps give the tokens and lead to the state. -/
def Advances (s : State) (ts : List Token) (s' : State) : Prop :=
  ∃ k, s'.potential + k ≤ s.potential ∧
    ∀ fuel, run (fuel + k) s = (run fuel s').map (ts ++ ·)

namespace Advances

theorem refl (s : State) : Advances s [] s := ⟨0, Nat.le_refl _, fun fuel ↦ by simp⟩

/-- Runs in a row. The fuel that they take adds up, and the potential pays for both. -/
theorem trans {s s' s'' : State} {ts us : List Token} (h : Advances s ts s')
    (h' : Advances s' us s'') : Advances s (ts ++ us) s'' := by
  obtain ⟨j, hj, hrun⟩ := h
  obtain ⟨k, hk, hrun'⟩ := h'
  refine ⟨k + j, by omega, fun fuel ↦ ?_⟩
  rw [← Nat.add_assoc, hrun, hrun', Option.map_map]
  congr 1
  funext vs
  exact (List.append_assoc ts us vs).symm

/-- Fuel is spent one step at a time, so a step that lowers the potential is paid for. -/
theorem of_step {s s' : State} {ts : List Token} (h : step s = some (ts, some s'))
    (hpotential : s'.potential < s.potential) : Advances s ts s' := by
  refine ⟨1, hpotential, fun fuel ↦ ?_⟩
  rw [run, h]
  cases hrest : run fuel s' <;> simp [hrest]

end Advances

/-- A state inside a line, with brackets open only. The brackets are given by what closes them. -/
def code (rest : List Char) (offset : Nat) (blocks : List Indentation) (waiting : List Symbol)
    (lineOpen : Bool) : State :=
  ⟨rest, offset, blocks, waiting.map .bracket, false, lineOpen⟩

section Code

variable (rest : List Char) (offset : Nat) (blocks : List Indentation) (waiting : List Symbol)
  (lineOpen : Bool)

/-- Inside a line no margin is measured, so a step is one that takes a token. -/
theorem step_code :
    step (code rest offset blocks waiting lineOpen) =
      codeStep (code rest offset blocks waiting lineOpen) := by
  cases waiting <;> rfl

@[simp] theorem potential_code :
    (code rest offset blocks waiting lineOpen).potential = 2 * rest.length := rfl

theorem advances_space :
    Advances (code (' ' :: rest) offset blocks waiting lineOpen) []
      (code rest (offset + 1) blocks waiting lineOpen) := by
  refine .of_step ?_ ?_
  · rw [step_code]
    rfl
  · simp

end Code

/-! ## Pieces -/

/-- A text is the longest token where `after` follows it. -/
def IsTaken (kind : TokenKind) (text after : List Char) (waiting waiting' : List Symbol) : Prop :=
  ∀ offset blocks lineOpen, Advances (code (text ++ after) offset blocks waiting lineOpen)
    [⟨kind, offset, offset + text.length⟩]
    (code after (offset + text.length) blocks waiting' true)

/-- Every piece is the longest token where it stands, and `after` follows the last one. -/
def Scans (ps : List Piece) (after : List Char) (waiting waiting' : List Symbol) : Prop :=
  ∀ offset blocks lineOpen, Advances (code (sourceOf ps ++ after) offset blocks waiting lineOpen)
    (tokensFrom offset ps)
    (code after (offset + (sourceOf ps).length) blocks waiting' (lineOpen || !ps.isEmpty))

namespace Scans

variable {waiting waiting' waiting'' : List Symbol} {ps qs : List Piece} {after : List Char}

theorem nil : Scans [] after waiting waiting := by
  intro offset blocks lineOpen
  simpa [tokensFrom] using Advances.refl (code after offset blocks waiting lineOpen)

/-- A piece need be the longest token only in front of the very pieces that follow it. -/
theorem cons {p : Piece} (hp : IsTaken p.kind p.text (sourceOf ps ++ after) waiting waiting')
    (h : Scans ps after waiting' waiting'') : Scans (p :: ps) after waiting waiting'' := by
  intro offset blocks lineOpen
  have hgap : Advances (code (p.source ++ (sourceOf ps ++ after)) offset blocks waiting lineOpen) []
      (code (p.text ++ (sourceOf ps ++ after)) (p.startFrom offset) blocks waiting lineOpen) := by
    unfold Piece.source Piece.startFrom Piece.gap
    cases p.spaced
    · exact .refl _
    · exact advances_space _ _ _ _ _
  have hall := hgap.trans ((hp _ blocks lineOpen).trans (h _ blocks true))
  simp only [List.nil_append, List.singleton_append, Bool.true_or] at hall
  rw [Piece.sourceOf_cons, List.append_assoc, List.length_append, ← Nat.add_assoc,
    ← Piece.startFrom_add, List.isEmpty_cons, Bool.not_false, Bool.or_true]
  exact hall

/-- What is known of each half is enough, if the first is scanned in front of the second. -/
theorem append (hp : Scans ps (sourceOf qs ++ after) waiting waiting')
    (hq : Scans qs after waiting' waiting'') : Scans (ps ++ qs) after waiting waiting'' := by
  intro offset blocks lineOpen
  have hall := (hp offset blocks lineOpen).trans (hq _ blocks _)
  rw [← Piece.tokensFrom_append, Bool.or_assoc, ← List.append_assoc, Nat.add_assoc,
    ← List.length_append, ← Piece.sourceOf_append] at hall
  have hempty : (!ps.isEmpty || !qs.isEmpty) = !(ps ++ qs).isEmpty := by
    cases ps <;> simp
  rwa [hempty] at hall

end Scans

end Layout

end StarlarkMacro.Source
