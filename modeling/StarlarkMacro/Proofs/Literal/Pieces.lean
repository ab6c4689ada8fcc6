import StarlarkMacro.Proofs.Literal.Datum
import StarlarkMacro.Proofs.Source.Lexeme

/-!
# Data as tokens

The text of a datum is laid out in pieces, with a space behind every separator. Wherever it stands in front
of a separator or a closing bracket, it is scanned piece by piece, and the brackets open before it are those
open behind it.
-/

namespace StarlarkMacro

open Source
open Source.Layout (EndsWord EndsNumber Scans numberKind)

namespace Source.Piece

def symbol (s : Symbol) (c : Char) : Piece := ⟨false, .symbol s, [c]⟩

def comma : Piece := symbol .comma ','

def colon : Piece := symbol .colon ':'

end Source.Piece

namespace Datum

/-- A number with its sign as a token of its own. -/
def signedPieces (spaced negative : Bool) (size : List Char) : List Piece :=
  if negative then
    [⟨spaced, .symbol .minus, ['-']⟩, ⟨false, numberKind size, size⟩]
  else [⟨spaced, numberKind size, size⟩]

def tupleClosingPieces (members : List Datum) : List Piece :=
  if members.length = 1 then [.comma, .symbol .rightParen ')'] else [.symbol .rightParen ')']

mutual

/-- The pieces of a text, the first one perhaps behind a space. -/
def pieces (spaced : Bool) : Datum → List Piece
  | none => [⟨spaced, .keyword .noneWord, "None".toList⟩]
  | bool b =>
    if b then [⟨spaced, .keyword .trueWord, "True".toList⟩]
    else [⟨spaced, .keyword .falseWord, "False".toList⟩]
  | int n => signedPieces spaced (n < 0) (Nat.toDigits 10 n.natAbs)
  | float x _ => signedPieces spaced x.isNegative x.sizeText
  | string cs => [⟨spaced, .string (Text.Quoted.encode cs), Text.Quoted.encode cs⟩]
  | list members =>
    ⟨spaced, .symbol .leftBracket, ['[']⟩ :: membersPieces members ++ [.symbol .rightBracket ']']
  | tuple members =>
    ⟨spaced, .symbol .leftParen, ['(']⟩ :: membersPieces members ++ tupleClosingPieces members
  | mapping entries =>
    ⟨spaced, .symbol .leftBrace, ['\x7b']⟩ :: entriesPieces entries ++
      [.symbol .rightBrace '\x7d']

def membersPieces : List Datum → List Piece
  | [] => []
  | d :: ds => d.pieces false ++ morePieces ds

def morePieces : List Datum → List Piece
  | [] => []
  | d :: ds => .comma :: d.pieces true ++ morePieces ds

def entriesPieces : List (Datum × Datum) → List Piece
  | [] => []
  | (k, v) :: es => k.pieces false ++ .colon :: v.pieces true ++ moreEntriesPieces es

def moreEntriesPieces : List (Datum × Datum) → List Piece
  | [] => []
  | (k, v) :: es => .comma :: k.pieces true ++ .colon :: v.pieces true ++ moreEntriesPieces es

end

/-! ## The text of the pieces -/

def gapText (spaced : Bool) : List Char := if spaced then [' '] else []

/-- The space stands before the sign if there is one, and before the digits otherwise. -/
theorem sourceOf_signedPieces (spaced negative : Bool) (size : List Char) :
    Piece.sourceOf (signedPieces spaced negative size) =
      gapText spaced ++ (if negative then ['-'] else []) ++ size := by
  cases negative <;> cases spaced <;> simp [signedPieces, Piece.source, Piece.gap, gapText]

theorem source_symbol (s : Symbol) (c : Char) : (Piece.symbol s c).source = [c] := rfl

theorem sourceOf_tupleClosingPieces (ds : List Datum) :
    Piece.sourceOf (tupleClosingPieces ds) = tupleClosing ds := by
  unfold tupleClosingPieces tupleClosing
  split <;> rfl

mutual

/-- The pieces of a datum make up its text. By recursion on the datum, together with its members. -/
theorem sourceOf_pieces (spaced : Bool) :
    ∀ d : Datum, Piece.sourceOf (d.pieces spaced) = gapText spaced ++ d.text
  | none => by cases spaced <;> rfl
  | bool b => by cases spaced <;> cases b <;> rfl
  | int n => by
    rw [pieces, sourceOf_signedPieces, List.append_assoc]
    simp [text, Value.intText]
  | float x finite => by
    rw [pieces, sourceOf_signedPieces, List.append_assoc, text, Double.text_of_isFinite finite,
      Double.signText]
  | string cs => by simp [pieces, text, Piece.source, Piece.gap, gapText]
  | list members => by
    simp [pieces, text, Piece.source, Piece.gap, gapText, sourceOf_membersPieces members, Piece.symbol]
  | tuple members => by
    simp [pieces, text, Piece.source, Piece.gap, gapText, sourceOf_membersPieces members,
      sourceOf_tupleClosingPieces]
  | mapping entries => by
    simp [pieces, text, Piece.source, Piece.gap, gapText, sourceOf_entriesPieces entries,
      Piece.symbol]

theorem sourceOf_membersPieces : ∀ ds, Piece.sourceOf (membersPieces ds) = membersText ds
  | [] => rfl
  | d :: ds => by
    rw [membersPieces, Piece.sourceOf_append, sourceOf_pieces false d, sourceOf_morePieces ds]
    rfl

/-- Behind every comma stands a space, which belongs to the piece that follows it. -/
theorem sourceOf_morePieces : ∀ ds, Piece.sourceOf (morePieces ds) = moreText ds
  | [] => rfl
  | d :: ds => by
    rw [morePieces, Piece.sourceOf_append, Piece.sourceOf_cons, sourceOf_pieces true d,
      sourceOf_morePieces ds]
    rfl

theorem sourceOf_entriesPieces : ∀ es, Piece.sourceOf (entriesPieces es) = entriesText es
  | [] => rfl
  | (k, v) :: es => by
    simp only [entriesPieces, Piece.sourceOf_append, Piece.sourceOf_cons, sourceOf_pieces false k,
      sourceOf_pieces true v, sourceOf_moreEntriesPieces es, entriesText, gapText, Piece.colon,
      source_symbol]
    simp

theorem sourceOf_moreEntriesPieces :
    ∀ es, Piece.sourceOf (moreEntriesPieces es) = moreEntriesText es
  | [] => rfl
  | (k, v) :: es => by
    simp only [moreEntriesPieces, Piece.sourceOf_append, Piece.sourceOf_cons, sourceOf_pieces true k,
      sourceOf_pieces true v, sourceOf_moreEntriesPieces es, moreEntriesText, gapText, Piece.colon,
      Piece.comma, source_symbol]
    simp

end

/-! ## Scanning -/

/-- What may follow a datum: a separator or a closing bracket. -/
def Ends (after : List Char) : Prop :=
  ∃ c rest, after = c :: rest ∧ (c = ',' ∨ c = ':' ∨ c = ')' ∨ c = ']' ∨ c = '\x7d')

section Ends

variable {after : List Char} (h : Ends after)
include h

/-- No separator and no bracket goes on as a word, and none is a quote. -/
theorem Ends.endsWord : EndsWord after := by
  rintro c rest rfl
  obtain ⟨_, _, ⟨⟩, rfl | rfl | rfl | rfl | rfl⟩ := h
  all_goals decide

theorem Ends.endsNumber : EndsNumber after := by
  rintro c rest rfl
  obtain ⟨_, _, ⟨⟩, rfl | rfl | rfl | rfl | rfl⟩ := h
  all_goals decide

theorem Ends.head?_ne_quote : after.head? ≠ some '"' := by
  obtain ⟨_, _, rfl, rfl | rfl | rfl | rfl | rfl⟩ := h
  all_goals simp

/-- Behind a member stands the comma of the next one or what stands behind all of them. -/
theorem ends_morePieces (ds : List Datum) : Ends (Piece.sourceOf (morePieces ds) ++ after) := by
  cases ds with
  | nil => exact h
  | cons d ds => exact ⟨',', _, rfl, .inl rfl⟩

theorem ends_moreEntriesPieces (es : List (Datum × Datum)) :
    Ends (Piece.sourceOf (moreEntriesPieces es) ++ after) := by
  cases es with
  | nil => exact h
  | cons e es => exact ⟨',', _, rfl, .inl rfl⟩

end Ends

theorem ends_tupleClosingPieces (ds : List Datum) (after : List Char) :
    Ends (Piece.sourceOf (tupleClosingPieces ds) ++ after) := by
  unfold tupleClosingPieces
  split
  · exact ⟨',', _, rfl, .inl rfl⟩
  · exact ⟨')', _, rfl, .inr (.inr (.inl rfl))⟩

section Scans

variable {after : List Char} {waiting : List Symbol}

/-- A minus is a symbol of its own, so a negative number is two tokens. -/
theorem scans_signedPieces (spaced negative : Bool) {size : List Char}
    (hstart : ∃ c rest, size = c :: rest ∧ c.isDigit = true)
    (hnumber : Lexeme.number (size ++ after) = some size.length) :
    Scans (signedPieces spaced negative size) after waiting waiting := by
  have hsize (spaced : Bool) : Scans [⟨spaced, numberKind size, size⟩] after waiting waiting :=
    .cons (Layout.isTaken_number hstart hnumber) .nil
  unfold signedPieces
  split
  · obtain ⟨c, rest, rfl, hc⟩ := hstart
    have hequal : c ≠ '=' := by
      rintro rfl
      exact absurd hc (by decide)
    have hgreater : c ≠ '>' := by
      rintro rfl
      exact absurd hc (by decide)
    exact .cons (Layout.isTaken_minus waiting _ hequal hgreater) (hsize false)
  · exact hsize spaced

/-- A tuple of one member has a comma before its closing parenthesis. -/
theorem scans_tupleClosingPieces (ds : List Datum) :
    Scans (tupleClosingPieces ds) after (.rightParen :: waiting) waiting := by
  unfold tupleClosingPieces
  split
  · exact .cons (Layout.isTaken_comma _ _) (.cons (Layout.isTaken_rightParen _ _) .nil)
  · exact .cons (Layout.isTaken_rightParen _ _) .nil

/-- The constants are words like any other to the scanner. -/
theorem scans_word (spaced : Bool) {kind : TokenKind} {c : Char} {cs : List Char}
    (hstart : Lexeme.isWordStart c = true) (hword : cs.all Lexeme.isWordChar = true)
    (hkind : Lexeme.wordKind? (c :: cs) = some kind) (hafter : EndsWord after) :
    Scans [⟨spaced, kind, c :: cs⟩] after waiting waiting :=
  .cons (Layout.isTaken_word hstart (List.all_eq_true.1 hword) hkind hafter) .nil

theorem exists_digit_toDigits (n : Nat) :
    ∃ c rest, Nat.toDigits 10 n = c :: rest ∧ c.isDigit = true := by
  obtain ⟨c, rest, hdigits⟩ := List.exists_cons_of_ne_nil (Nat.toDigits_ne_nil (n := n) (b := 10))
  have hmem : c ∈ Nat.toDigits 10 n := by simp [hdigits]
  exact ⟨c, rest, hdigits, Nat.isDigit_of_mem_toDigits (by decide) (by decide) hmem⟩

/-- A number begins with a digit, even if its size is less than one. -/
theorem exists_digit_numeral (n : Decimal.Numeral) :
    ∃ c rest, n.text = c :: rest ∧ c.isDigit = true := by
  obtain ⟨c, whole, hwhole⟩ := List.exists_cons_of_ne_nil n.whole_ne_nil
  exact ⟨c, _, by rw [Decimal.Numeral.text, hwhole]; rfl, n.isDigit_of_mem_whole c (by simp [hwhole])⟩

/-- The colon in front of the value of an entry. -/
theorem isTaken_colon (d : Datum) (ps : List Piece) :
    Layout.IsTaken (.symbol .colon) [':'] (Piece.sourceOf (d.pieces true ++ ps) ++ after) waiting
      waiting := by
  rw [Piece.sourceOf_append, sourceOf_pieces]
  exact Layout.isTaken_colon_space _ _

mutual

/-- A datum is scanned piece by piece wherever it may stand. -/
theorem scans_pieces (spaced : Bool) :
    ∀ (d : Datum) {after : List Char} {waiting : List Symbol}, Ends after →
      Scans (d.pieces spaced) after waiting waiting
  | none, _, _, h => scans_word spaced rfl (by decide) (by decide) h.endsWord
  | bool true, _, _, h => scans_word spaced rfl (by decide) (by decide) h.endsWord
  | bool false, _, _, h => scans_word spaced rfl (by decide) (by decide) h.endsWord
  | int n, _, _, h =>
    scans_signedPieces spaced _ (exists_digit_toDigits _) (Layout.number_toDigits _ h.endsNumber)
  | float x _, _, _, h => by
    obtain ⟨n, hn⟩ := Double.exists_numeral_sizeText x
    rw [pieces, hn]
    exact scans_signedPieces spaced _ (exists_digit_numeral n) (Layout.number_numeral n h.endsNumber)
  | string cs, _, _, h => .cons (Layout.isTaken_string cs h.head?_ne_quote) .nil
  | list members, _, _, _ =>
    .cons (Layout.isTaken_leftBracket _ _)
      ((scans_membersPieces members ⟨']', _, rfl, .inr (.inr (.inr (.inl rfl)))⟩).append
        (.cons (Layout.isTaken_rightBracket _ _) .nil))
  | tuple members, _, _, _ =>
    .cons (Layout.isTaken_leftParen _ _)
      ((scans_membersPieces members (ends_tupleClosingPieces members _)).append
        (scans_tupleClosingPieces members))
  | mapping entries, _, _, _ =>
    .cons (Layout.isTaken_leftBrace _ _)
      ((scans_entriesPieces entries ⟨'\x7d', _, rfl, .inr (.inr (.inr (.inr rfl)))⟩).append
        (.cons (Layout.isTaken_rightBrace _ _) .nil))

/-- The members of a list and of a tuple, without their brackets. -/
theorem scans_membersPieces :
    ∀ (ds : List Datum) {after : List Char} {waiting : List Symbol}, Ends after →
      Scans (membersPieces ds) after waiting waiting
  | [], _, _, _ => .nil
  | d :: ds, _, _, h => (scans_pieces false d (ends_morePieces h ds)).append (scans_morePieces ds h)

theorem scans_morePieces :
    ∀ (ds : List Datum) {after : List Char} {waiting : List Symbol}, Ends after →
      Scans (morePieces ds) after waiting waiting
  | [], _, _, _ => .nil
  | d :: ds, _, _, h =>
    .cons (Layout.isTaken_comma _ _)
      ((scans_pieces true d (ends_morePieces h ds)).append (scans_morePieces ds h))

theorem scans_entriesPieces :
    ∀ (es : List (Datum × Datum)) {after : List Char} {waiting : List Symbol}, Ends after →
      Scans (entriesPieces es) after waiting waiting
  | [], _, _, _ => .nil
  | (k, v) :: es, _, _, h => by
    rw [entriesPieces, List.append_assoc, List.cons_append]
    exact (scans_pieces false k ⟨':', _, rfl, .inr (.inl rfl)⟩).append (.cons (isTaken_colon v _)
      ((scans_pieces true v (ends_moreEntriesPieces h es)).append (scans_moreEntriesPieces es h)))

/-- Further entries: a comma, a key, a colon and a value, every one in front of what ends a datum. -/
theorem scans_moreEntriesPieces :
    ∀ (es : List (Datum × Datum)) {after : List Char} {waiting : List Symbol}, Ends after →
      Scans (moreEntriesPieces es) after waiting waiting
  | [], _, _, _ => .nil
  | (k, v) :: es, _, _, h => by
    rw [moreEntriesPieces, List.append_assoc, List.cons_append, List.cons_append]
    exact .cons (Layout.isTaken_comma _ _) ((scans_pieces true k ⟨':', _, rfl, .inr (.inl rfl)⟩).append
      (.cons (isTaken_colon v _)
        ((scans_pieces true v (ends_moreEntriesPieces h es)).append (scans_moreEntriesPieces es h))))

end

end Scans

/-! ## The word that returns is no part of a datum -/

open Piece (ReturnFree returnFree_nil)

theorem returnFree_symbol (s : Symbol) (c : Char) : ReturnFree [.symbol s c] :=
  .cons (by simp [Piece.symbol]) returnFree_nil

theorem returnFree_signedPieces (spaced negative : Bool) (size : List Char) :
    ReturnFree (signedPieces spaced negative size) := by
  cases negative <;> simp [ReturnFree, signedPieces, numberKind]

theorem returnFree_tupleClosingPieces (ds : List Datum) : ReturnFree (tupleClosingPieces ds) := by
  unfold tupleClosingPieces
  split <;> simp [ReturnFree, Piece.comma, Piece.symbol]

mutual

/-- The only keywords of a datum are constants. -/
theorem returnFree_pieces (spaced : Bool) : ∀ d : Datum, ReturnFree (d.pieces spaced)
  | none => .cons (by simp) returnFree_nil
  | bool true => .cons (by simp) returnFree_nil
  | bool false => .cons (by simp) returnFree_nil
  | int _ => returnFree_signedPieces _ _ _
  | float _ _ => returnFree_signedPieces _ _ _
  | string _ => .cons (by simp) returnFree_nil
  | list members =>
    .cons (by simp) ((returnFree_membersPieces members).append (returnFree_symbol _ _))
  | tuple members =>
    .cons (by simp) ((returnFree_membersPieces members).append (returnFree_tupleClosingPieces _))
  | mapping entries =>
    .cons (by simp) ((returnFree_entriesPieces entries).append (returnFree_symbol _ _))

theorem returnFree_membersPieces : ∀ ds : List Datum, ReturnFree (membersPieces ds)
  | [] => returnFree_nil
  | d :: ds => (returnFree_pieces false d).append (returnFree_morePieces ds)

theorem returnFree_morePieces : ∀ ds : List Datum, ReturnFree (morePieces ds)
  | [] => returnFree_nil
  | d :: ds => .cons (by simp [Piece.comma, Piece.symbol])
    ((returnFree_pieces true d).append (returnFree_morePieces ds))

theorem returnFree_entriesPieces : ∀ es : List (Datum × Datum), ReturnFree (entriesPieces es)
  | [] => returnFree_nil
  | (k, v) :: es => ((returnFree_pieces false k).append (.cons (by simp [Piece.colon, Piece.symbol])
    (returnFree_pieces true v))).append (returnFree_moreEntriesPieces es)

theorem returnFree_moreEntriesPieces : ∀ es : List (Datum × Datum), ReturnFree (moreEntriesPieces es)
  | [] => returnFree_nil
  | (k, v) :: es => .cons (by simp [Piece.comma, Piece.symbol])
    (((returnFree_pieces true k).append (.cons (by simp [Piece.colon, Piece.symbol])
      (returnFree_pieces true v))).append (returnFree_moreEntriesPieces es))

end

end Datum

end StarlarkMacro
