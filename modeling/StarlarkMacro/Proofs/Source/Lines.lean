import StarlarkMacro.Proofs.Source.Lexeme
import StarlarkMacro.Proofs.Source.Reads

/-!
# Lines in one level of blocks

A text whose lines begin at the margin or behind four spaces. Such a text is scanned line by line: a line
behind spaces opens a block or goes on with the open one, a line at the margin closes it, and the end of the
text closes it as well.
-/

namespace StarlarkMacro.Source.Layout

open Lexeme
open Piece (sourceOf tokensFrom)
open Reader (Apart)

/-- A line by its pieces, and whether it stands inside a block. -/
structure Line where
  inside : Bool
  pieces : List Piece

namespace Line

def indentation : List Char := [' ', ' ', ' ', ' ']

def margin (inside : Bool) : List Char := if inside then indentation else []

/-- The blocks that are open behind a line. -/
def blocks (inside : Bool) : List Indentation := if inside then [.ofBlanks indentation] else []

def text (l : Line) : List Char := margin l.inside ++ (sourceOf l.pieces ++ ['\n'])

/-- What opens or closes a block between two lines. -/
def changeKinds : Bool → Bool → List TokenKind
  | false, true => [.indent indentation]
  | true, false => [.dedent indentation]
  | _, _ => []

/-- The kinds of the tokens of lines, up to the end of the text. -/
def kindsOf : Bool → List Line → List TokenKind
  | inside, [] => changeKinds inside false
  | inside, l :: ls =>
    changeKinds inside l.inside ++ (l.pieces.map Piece.kind ++ .newline :: kindsOf l.inside ls)

end Line

/-- Tokens behind which whatever is apart stays apart. -/
def Closed (ts : List Token) : Prop := ∀ us, Apart us → Apart (ts ++ us)

namespace Closed

theorem nil : Closed [] := fun _ h ↦ h

theorem apart {ts : List Token} (h : Closed ts) : Apart ts := by
  simpa using h [] .nil

theorem append {ts us : List Token} (hts : Closed ts) (hus : Closed us) : Closed (ts ++ us) := by
  intro vs hvs
  rw [List.append_assoc]
  exact hts _ (hus vs hvs)

/-- A token that is not the word that returns may touch what follows it. -/
theorem cons {t : Token} {ts : List Token} (ht : t.kind ≠ .keyword .returnWord) (hts : Closed ts) :
    Closed (t :: ts) := by
  intro us hus
  refine List.IsChain.cons (hts us hus) fun u _ hreturn ↦ absurd hreturn ht

theorem tokensFrom {ps : List Piece} (h : Piece.ReturnFree ps) (offset : Nat) :
    Closed (tokensFrom offset ps) := by
  induction ps generalizing offset with
  | nil => exact nil
  | cons p ps ih => exact cons (h p (by simp)) (ih (fun q hq ↦ h q (by simp [hq])) _)

end Closed

/-- A line that begins with a word, is scanned piece by piece and returns nothing without a space. -/
structure Line.IsLaid (l : Line) : Prop where
  startsWord : ∃ c rest, sourceOf l.pieces = c :: rest ∧ isWordStart c = true
  scans : ∀ more, Scans l.pieces ('\n' :: more) [] []
  closed : ∀ offset, Closed (tokensFrom offset l.pieces)

/-! ## Steps between lines -/

open Line (indentation margin blocks changeKinds kindsOf)

/-- The state at the start of a line outside brackets. -/
def atLine (rest : List Char) (offset : Nat) (inside : Bool) : State :=
  ⟨rest, offset, blocks inside, [], true, false⟩

theorem potential_atLine (rest : List Char) (offset : Nat) (inside : Bool) :
    (atLine rest offset inside).potential = 2 * rest.length + 1 := rfl

/-- What opens or closes a block in front of a token. -/
def changeTokens (offset : Nat) (inside inside' : Bool) : List Token :=
  (changeKinds inside inside').map fun kind ↦ ⟨kind, offset, offset⟩

theorem map_kind_changeTokens (offset : Nat) (inside inside' : Bool) :
    (changeTokens offset inside inside').map Token.kind = changeKinds inside inside' := by
  cases inside <;> cases inside' <;> rfl

/-- No indentation and no dedent is the word that returns. -/
theorem closed_changeTokens (offset : Nat) (inside inside' : Bool) :
    Closed (changeTokens offset inside inside') := by
  cases inside <;> cases inside'
  · exact .nil
  · exact .cons (by simp) .nil
  · exact .cons (by simp) .nil
  · exact .nil

/-- At the start of a line the margin is measured, and a block begins or ends if it has changed. -/
theorem step_atLine {c : Char} (hc : isWordStart c = true) (cs : List Char) (offset : Nat)
    (inside inside' : Bool) :
    step (atLine (margin inside' ++ c :: cs) offset inside) =
      some (changeTokens (offset + (margin inside').length) inside inside',
        some (code (c :: cs) (offset + (margin inside').length) (blocks inside') [] false)) := by
  obtain ⟨hblank, hend, hbackslash, hcomment⟩ := class_of_isWordStart hc
  have hmargin : ∀ d ∈ margin inside', isBlank d = true := by
    cases inside' <;> exact List.all_eq_true.1 rfl
  have htake : (margin inside' ++ c :: cs).takeWhile isBlank = margin inside' :=
    Text.takeWhile_word_append hmargin (.cons hblank)
  have hskip : (atLine (margin inside' ++ c :: cs) offset inside).skip (margin inside').length =
      ⟨c :: cs, offset + (margin inside').length, blocks inside, [], true, false⟩ := by
    simp [atLine, State.skip]
  have hstart : startLine (atLine (margin inside' ++ c :: cs) offset inside) =
      indentLine ⟨c :: cs, offset + (margin inside').length, blocks inside, [], true, false⟩
        (.ofBlanks (margin inside')) := by
    have hrest : (atLine (margin inside' ++ c :: cs) offset inside).rest =
        margin inside' ++ c :: cs := rfl
    simp only [startLine, hrest, htake, hskip, hend]
    split
    · simp_all
    · simp_all
  have hstep : step (atLine (margin inside' ++ c :: cs) offset inside) =
      startLine (atLine (margin inside' ++ c :: cs) offset inside) := rfl
  rw [hstep, hstart]
  cases inside <;> cases inside' <;> rfl

theorem step_lineFeed (more : List Char) (offset : Nat) (inside : Bool) :
    step (code ('\n' :: more) offset (blocks inside) [] true) =
      some ([⟨.newline, offset, offset + 1⟩], some (atLine more (offset + 1) inside)) := rfl

/-! ## Whole lines -/

/-- A line is scanned from its margin to its end. -/
theorem exists_advances_line {l : Line} (hl : l.IsLaid) (more : List Char) (offset : Nat)
    (inside : Bool) :
    ∃ ts, Advances (atLine (l.text ++ more) offset inside) ts
        (atLine more (offset + l.text.length) l.inside) ∧
      ts.map Token.kind = changeKinds inside l.inside ++ (l.pieces.map Piece.kind ++ [.newline]) ∧
      Closed ts := by
  obtain ⟨c, cs, hsource, hc⟩ := hl.startsWord
  have htext : l.text ++ more = margin l.inside ++ (sourceOf l.pieces ++ '\n' :: more) := by
    simp [Line.text]
  have hfirst : Advances (atLine (l.text ++ more) offset inside)
      (changeTokens (offset + (margin l.inside).length) inside l.inside)
      (code (sourceOf l.pieces ++ '\n' :: more) (offset + (margin l.inside).length)
        (blocks l.inside) [] false) := by
    rw [htext, hsource, List.cons_append]
    refine .of_step (step_atLine hc _ _ _ _) ?_
    rw [potential_code, potential_atLine, List.length_append]
    omega
  have hpieces : (false || !l.pieces.isEmpty) = true := by
    cases hempty : l.pieces with
    | nil => simp [hempty] at hsource
    | cons p ps => rfl
  have hscan := hl.scans more (offset + (margin l.inside).length) (blocks l.inside) false
  rw [hpieces] at hscan
  have hlast : Advances (code ('\n' :: more)
      (offset + (margin l.inside).length + (sourceOf l.pieces).length) (blocks l.inside) [] true)
      [⟨.newline, _, _⟩] (atLine more
        (offset + (margin l.inside).length + (sourceOf l.pieces).length + 1) l.inside) :=
    .of_step (step_lineFeed more _ _) (by
      rw [potential_code, potential_atLine, List.length_cons]
      omega)
  have hlength : offset + l.text.length =
      offset + (margin l.inside).length + (sourceOf l.pieces).length + 1 := by
    simp only [Line.text, List.length_append, List.length_singleton]
    omega
  rw [hlength]
  refine ⟨_, hfirst.trans (hscan.trans hlast), ?_, ?_⟩
  · simp [map_kind_changeTokens]
  · exact (closed_changeTokens _ _ _).append ((hl.closed _).append (.cons (by simp) .nil))

/-- The end of a text closes the block that is open. -/
theorem run_atLine_nil (fuel offset : Nat) (inside : Bool) :
    run (fuel + 2) (atLine [] offset inside) = some (changeTokens offset inside false) := by
  cases inside <;> rfl

/-- By induction on the lines, each beginning in the block where the one before it stood. -/
theorem exists_advances_lines {ls : List Line} (hls : ∀ l ∈ ls, l.IsLaid) (offset : Nat)
    (inside : Bool) :
    ∃ ts last, Advances (atLine (ls.flatMap Line.text) offset inside) ts
        (atLine [] (offset + (ls.flatMap Line.text).length) last) ∧
      ts.map Token.kind ++ changeKinds last false = kindsOf inside ls ∧ Closed ts := by
  induction ls generalizing offset inside with
  | nil => exact ⟨[], inside, .refl _, rfl, .nil⟩
  | cons l ls ih =>
    obtain ⟨ts, hts, hkinds, hclosed⟩ := exists_advances_line (hls l (by simp))
      (ls.flatMap Line.text) offset inside
    obtain ⟨us, last, hus, hkinds', hclosed'⟩ := ih (fun l' hl' ↦ hls l' (by simp [hl']))
      (offset + l.text.length) l.inside
    refine ⟨ts ++ us, last, ?_, ?_, hclosed.append hclosed'⟩
    · rw [List.flatMap_cons, List.length_append, ← Nat.add_assoc]
      exact hts.trans hus
    · rw [kindsOf, ← hkinds', List.map_append, hkinds]
      simp

/-- The tokens of a text of lines. -/
theorem exists_tokens?_eq {ls : List Line} (hls : ∀ l ∈ ls, l.IsLaid)
    (hmark : (ls.flatMap Line.text).head? ≠ some byteOrderMark) :
    ∃ ts, tokens? (ls.flatMap Line.text) = some ts ∧ ts.map Token.kind = kindsOf false ls ∧
      Apart ts := by
  obtain ⟨ts, last, ⟨k, hk, hrun⟩, hkinds, hclosed⟩ := exists_advances_lines hls 0 false
  have hlength : markLength (ls.flatMap Line.text) = 0 := by rw [markLength, if_neg hmark]
  have hfuel : 2 * (ls.flatMap Line.text).length + 2 =
      2 * (ls.flatMap Line.text).length - k + 2 + k := by
    rw [potential_atLine, potential_atLine] at hk
    omega
  refine ⟨ts ++ changeTokens (0 + (ls.flatMap Line.text).length) last false, ?_, ?_, ?_⟩
  · rw [tokens?, hlength, hfuel]
    refine (hrun _).trans ?_
    rw [run_atLine_nil, Option.map_some]
  · rw [List.map_append, map_kind_changeTokens, hkinds]
  · exact (hclosed.append (closed_changeTokens _ _ _)).apart

end StarlarkMacro.Source.Layout
