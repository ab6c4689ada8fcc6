import StarlarkMacro.Proofs.Check.Shape
import StarlarkMacro.Proofs.Document.Name

/-!
# Paths in a text

A quoted text is one token in front of anything but a quote, holds no control character, and stands for the
text that was quoted. So it does as the path of a push, and a macro that is written with it reads back with
that text for its only directory.
-/

namespace StarlarkMacro

open Source

namespace Text.Quoted

theorem isControl_of_isOctalDigit {c : Char} (h : Lexeme.isOctalDigit c = true) :
    isControl c = false := by
  simp only [Lexeme.isOctalDigit, Bool.and_eq_true, decide_eq_true_eq] at h
  simp only [isControl, Bool.or_eq_false_iff, decide_eq_false_iff_not]
  refine ⟨Char.not_lt.2 (Char.le_trans (show ' ' ≤ '0' by decide) h.1), ?_⟩
  · rintro rfl
    exact absurd h.2 (by decide)

/-- Every control character is escaped, and what its escape is made of is printable. -/
theorem isControl_of_mem_escape {c d : Char} (h : d ∈ escape c) : isControl d = false := by
  have hshort (s : List Char) (hs : (s.all fun d ↦ !isControl d) = true) (hd : d ∈ s) :
      isControl d = false := by
    simpa using List.all_eq_true.1 hs d hd
  unfold escape at h
  split_ifs at h with hbackslash hquote hlineFeed hreturn htab hcontrol
  · exact hshort _ (by decide) h
  · exact hshort _ (by decide) h
  · exact hshort _ (by decide) h
  · exact hshort _ (by decide) h
  · exact hshort _ (by decide) h
  · simp only [octal, List.mem_cons, List.not_mem_nil, or_false] at h
    obtain rfl | rfl | rfl | rfl := h
    · decide
    all_goals exact isControl_of_isOctalDigit (isOctalDigit_octalDigit _)
  · rw [List.mem_singleton.1 h]
    exact Bool.eq_false_iff.2 hcontrol

theorem isControl_of_mem_encode {cs : List Char} {c : Char} (h : c ∈ encode cs) :
    isControl c = false := by
  rw [encode, List.cons_append, List.mem_cons, List.mem_append, List.mem_singleton] at h
  obtain rfl | hmem | rfl := h
  · decide
  · obtain ⟨d, -, hd⟩ := List.mem_flatMap.1 hmem
    exact isControl_of_mem_escape hd
  · decide

/-- The text of a macro that pushes one directory and returns. -/
def pushingText (literal : List Char) : List Char :=
  Writer.header "gen".toList ++ Writer.statementLine (Writer.pushStatement literal) ++
    Writer.statementLine Writer.returnStatement

/-- The literal of a text, with other text behind it. -/
structure IsLiteralOf (cs literal after : List Char) : Prop where
  /-- The string ends at its own closing quote. -/
  ends : Lexeme.quotedString (literal ++ after) = some literal.length
  /-- It is a token by itself wherever a token may begin. -/
  isTaken : ∀ waiting, Layout.IsTaken (.string literal) literal after waiting waiting
  no_control : ∀ c ∈ literal, 0x20 ≤ c.toNat ∧ c.toNat ≠ 0x7f
  value : StringLiteral.value? literal = some (ofChars cs)
  directory : ∀ s, Check.PushesDirectory literal s → ∀ depth isLast,
    Check.lineFindings depth isLast s = (⟨[], [], [ofChars cs]⟩, depth + 1)
  isTextOf : IsTextOf (pushingText literal) ⟨"gen".toList, [], [ofChars cs]⟩

/-- A macro that pushes the path and returns is read with exactly this path. -/
theorem isTextOf_pushingText (cs : List Char) :
    IsTextOf (pushingText (encode cs)) ⟨"gen".toList, [], [ofChars cs]⟩ := by
  let m : MacroText := ⟨"gen".toList, [.push cs]⟩
  have hname : Identifier.IsUsable "gen".toList := ⟨rfl, by decide⟩
  have hgood : m.IsGood := ⟨hname, fun l hl ↦ List.mem_singleton.1 hl ▸ trivial, rfl⟩
  have htext : m.text = pushingText (encode cs) := by
    simp [m, MacroText.text, MacroText.lines, MacroLine.statement, pushingText]
  exact htext ▸ MacroText.isTextOf hgood

/-- A quoted text is one literal and reads back as what was quoted, whatever the text holds and whatever
follows, as long as no quote follows. -/
theorem isLiteralOf_quoted (cs after : List Char) (h : after.head? ≠ some '"') :
    ∃ literal, quoted (ofChars cs) = ofChars literal ∧ IsLiteralOf cs literal after := by
  refine ⟨encode cs, quoted_ofChars cs, ?_⟩
  refine ⟨Layout.quotedString_encode cs h, fun _ ↦ Layout.isTaken_string cs h, fun c hc ↦ ?_,
    value?_encode cs, fun s hs depth isLast ↦ ?_, isTextOf_pushingText cs⟩
  · have hcontrol := isControl_of_mem_encode hc
    simp only [isControl, Bool.or_eq_false_iff, decide_eq_false_iff_not] at hcontrol
    refine ⟨show ' '.toNat ≤ c.toNat from Char.not_lt.1 hcontrol.1, fun heq ↦ hcontrol.2 ?_⟩
    rw [← Char.ofNat_toNat c, heq]
  · simp only [Check.lineFindings, Check.Shape.ofStatement?_eq_push_iff.2 hs, value?_encode]

/-- A control character in front of a digit, a backslash in front of a quote, and the characters that end a
line elsewhere; a digit and a quote follow. -/
def thornyText : List Char := "\x001\x7f7\\\"\\\\\n\r\t\u0085\u2028\u2029".toList

theorem isLiteralOf_quoted_thornyText :
    "7\"".toList.head? ≠ some '"' ∧
      quoted (ofChars thornyText) = ofChars (encode thornyText) ∧
      IsLiteralOf thornyText (encode thornyText) "7\"".toList := by
  have hafter : "7\"".toList.head? ≠ some '"' := by decide
  obtain ⟨literal, hquoted, hliteral⟩ := isLiteralOf_quoted thornyText "7\"".toList hafter
  obtain rfl := ofChars_injective (hquoted.symm.trans (quoted_ofChars thornyText))
  exact ⟨hafter, hquoted, hliteral⟩

/-- The empty text is no literal in front of a quote, which makes it open a long one. -/
example : Lexeme.quotedString (encode [] ++ ['"']) = none := by decide

end Text.Quoted

end StarlarkMacro
