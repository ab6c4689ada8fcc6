import StarlarkMacro.Source.StringLiteral
import StarlarkMacro.Text.Quoted
import Mathlib.Tactic.FinCases

/-!
# Quoted strings read back

A quoted string is one string literal wherever it stands, since no character in it ends a literal or a
line, and it stands for the text that was quoted. So two quoted strings in front of other text are equal
only if they quote the same text.
-/

namespace StarlarkMacro.Text.Quoted

open Source

/-- A character stands for itself in a literal. -/
def IsPlain (c : Char) : Prop := c ≠ '\\' ∧ c ≠ '"' ∧ Lexeme.isLineEnd c = false ∧ c ≠ '\x00'

/-- What an escape begins with behind its backslash. -/
def escapeStarts : List Char := ['\\', '"', 'n', 'r', 't', '0', '1']

/-- The control characters are ASCII, so three octal digits are enough for each. -/
theorem toNat_lt_of_isControl {c : Char} (h : isControl c = true) : c.toNat < 128 := by
  simp only [isControl, Bool.or_eq_true, decide_eq_true_eq] at h
  rcases h with h | rfl
  · have hlt : c.toNat < ' '.toNat := h
    exact hlt.trans (by decide)
  · decide

theorem isOctalDigit_octalDigit (n : Nat) : Lexeme.isOctalDigit (octalDigit n) = true := by
  have hall : ∀ d : Fin 8, Lexeme.isOctalDigit (Char.ofNat ('0'.toNat + d)) = true := by decide
  exact hall ⟨n % 8, Nat.mod_lt _ (by decide)⟩

theorem digitValue_octalDigit (n : Nat) : StringLiteral.digitValue (octalDigit n) = n % 8 := by
  have hall : ∀ d : Fin 8, StringLiteral.digitValue (Char.ofNat ('0'.toNat + d)) = d := by decide
  exact hall ⟨n % 8, Nat.mod_lt _ (by decide)⟩

theorem isPlain_of_isOctalDigit {c : Char} (h : Lexeme.isOctalDigit c = true) : IsPlain c := by
  simp only [Lexeme.isOctalDigit, Bool.and_eq_true, decide_eq_true_eq] at h
  refine ⟨?_, ?_, ?_, ?_⟩
  · rintro rfl
    exact absurd h.2 (by decide)
  · rintro rfl
    exact absurd h.1 (by decide)
  · by_contra hend
    simp only [Lexeme.isLineEnd, Bool.not_eq_false, Bool.or_eq_true, decide_eq_true_eq] at hend
    rcases hend with rfl | rfl
    · exact absurd h.1 (by decide)
    · exact absurd h.1 (by decide)
  · rintro rfl
    exact absurd h.1 (by decide)

/-- Three digits are read and no more, so a digit behind the escape is not taken for part of it. -/
theorem octalNumber_octal {n : Nat} (hn : n < 128) (rest : List Char) :
    StringLiteral.octalNumber 3 0 (octal n ++ rest) = (n, rest) := by
  have hvalue : 8 * (8 * (8 * 0 + n / 64 % 8) + n / 8 % 8) + n % 8 = n := by omega
  simp only [octal, List.cons_append, List.nil_append, StringLiteral.octalNumber,
    isOctalDigit_octalDigit, if_true, digitValue_octalDigit, hvalue]

/-- The octal digits of a control character begin with one of the first two. -/
theorem octalDigit_div {n : Nat} (hn : n < 128) :
    octalDigit (n / 64) = '0' ∨ octalDigit (n / 64) = '1' := by
  have hdigit : n / 64 = 0 ∨ n / 64 = 1 := by omega
  rcases hdigit with h | h
  · exact .inl (by rw [h]; rfl)
  · exact .inr (by rw [h]; rfl)

theorem escape_octal {n : Nat} (hn : n < 128) (rest : List Char) :
    StringLiteral.escape false (octal n ++ rest) = some ([.char (Char.ofNat n)], rest) := by
  have hnumber := octalNumber_octal hn rest
  have hvalid : n.isValidChar := .inl (by omega)
  have hcodePoint : StringLiteral.codePoint? (some (n, rest)) =
      some ([.char (Char.ofNat n)], rest) := by
    simp [StringLiteral.codePoint?, CodePoint.ofNat?, hvalid]
  simp only [octal, List.cons_append] at hnumber ⊢
  rcases octalDigit_div hn with h | h
  all_goals
    rw [h] at hnumber ⊢
    rw [← hcodePoint, ← hnumber]
    rfl

/-- The escape of a character is the character, or a backslash with what stands for it. -/
theorem escape_cases (c : Char) :
    (escape c = [c] ∧ IsPlain c) ∨
      ∃ start digits, escape c = '\\' :: start :: digits ∧ start ∈ escapeStarts ∧
        (∀ d ∈ digits, IsPlain d) ∧
        ∀ rest, StringLiteral.escape false (start :: digits ++ rest) = some ([.char c], rest) := by
  unfold escape
  by_cases hbackslash : c = '\\'
  · subst hbackslash
    exact .inr ⟨'\\', [], rfl, by decide, by simp, fun _ ↦ rfl⟩
  by_cases hquote : c = '"'
  · subst hquote
    exact .inr ⟨'"', [], rfl, by decide, by simp, fun _ ↦ rfl⟩
  by_cases hlineFeed : c = '\n'
  · subst hlineFeed
    exact .inr ⟨'n', [], rfl, by decide, by simp, fun _ ↦ rfl⟩
  by_cases hreturn : c = '\r'
  · subst hreturn
    exact .inr ⟨'r', [], rfl, by decide, by simp, fun _ ↦ rfl⟩
  by_cases htab : c = '\t'
  · subst htab
    exact .inr ⟨'t', [], rfl, by decide, by simp, fun _ ↦ rfl⟩
  simp only [hbackslash, hquote, hlineFeed, hreturn, htab, if_false]
  by_cases hcontrol : isControl c = true
  · have hlt := toNat_lt_of_isControl hcontrol
    have hdigits := octalDigit_div hlt
    rw [if_pos hcontrol]
    refine .inr ⟨_, _, rfl, ?_, ?_, fun rest ↦ ?_⟩
    · rcases hdigits with h | h <;> rw [h] <;> decide
    · intro d hd
      simp only [List.mem_cons, List.not_mem_nil, or_false] at hd
      rcases hd with rfl | rfl
      · exact isPlain_of_isOctalDigit (isOctalDigit_octalDigit _)
      · exact isPlain_of_isOctalDigit (isOctalDigit_octalDigit _)
    · exact (escape_octal hlt rest).trans (by rw [Char.ofNat_toNat])
  · rw [if_neg hcontrol]
    refine .inl ⟨rfl, hbackslash, hquote, by simp [Lexeme.isLineEnd, hlineFeed, hreturn], ?_⟩
    rintro rfl
    exact hcontrol (by decide)

theorem exists_escape_eq_cons (c : Char) : ∃ d rest, escape c = d :: rest ∧ d ≠ '"' := by
  obtain ⟨hescape, hplain⟩ | ⟨start, digits, hescape, -⟩ := escape_cases c
  · exact ⟨c, [], hescape, hplain.2.1⟩
  · exact ⟨'\\', _, hescape, by decide⟩

/-! ## Where a quoted string ends -/

/-- The scanner passes a plain character by. -/
theorem shortString_cons_of_isPlain {c : Char} (h : IsPlain c) (rest : List Char) :
    Lexeme.shortString '"' (c :: rest) = (Lexeme.shortString '"' rest).map (· + 1) := by
  obtain ⟨hbackslash, hquote, hend, -⟩ := h
  rw [Lexeme.shortString]
  · rw [if_neg hquote, hend, if_neg Bool.false_ne_true]
  all_goals simp [hbackslash]

theorem shortString_append_of_isPlain {cs : List Char} (h : ∀ c ∈ cs, IsPlain c)
    (rest : List Char) :
    Lexeme.shortString '"' (cs ++ rest) = (Lexeme.shortString '"' rest).map (· + cs.length) := by
  induction cs with
  | nil => simp
  | cons c cs ih =>
    rw [List.cons_append, shortString_cons_of_isPlain (h c (by simp)),
      ih fun d hd ↦ h d (by simp [hd]), Option.map_map]
    rfl

theorem shortString_escapeStart {c : Char} (h : c ∈ escapeStarts) (rest : List Char) :
    Lexeme.shortString '"' ('\\' :: c :: rest) = (Lexeme.shortString '"' rest).map (· + 2) := by
  simp only [escapeStarts, List.mem_cons, List.not_mem_nil, or_false] at h
  rcases h with rfl | rfl | rfl | rfl | rfl | rfl | rfl <;> rfl

/-- It passes an escape by as well, and never stops at an escaped quote. -/
theorem shortString_escape (c : Char) (rest : List Char) :
    Lexeme.shortString '"' (escape c ++ rest) =
      (Lexeme.shortString '"' rest).map (· + (escape c).length) := by
  obtain ⟨hescape, hplain⟩ | ⟨start, digits, hescape, hstart, hdigits, -⟩ := escape_cases c
  · rw [hescape]
    exact shortString_cons_of_isPlain hplain rest
  · rw [hescape, List.cons_append, List.cons_append, shortString_escapeStart hstart,
      shortString_append_of_isPlain hdigits, Option.map_map]
    rfl

/-- The closing quote of a quoted string is the first that counts. -/
theorem shortString_flatMap_escape (cs rest : List Char) :
    Lexeme.shortString '"' (cs.flatMap escape ++ '"' :: rest) =
      some ((cs.flatMap escape).length + 1) := by
  induction cs with
  | nil => rfl
  | cons c cs ih =>
    rw [List.flatMap_cons, List.append_assoc, shortString_escape, ih, Option.map_some,
      List.length_append]
    congr 1
    omega

/-! ## What a quoted string stands for -/

/-- Decoding undoes the escapes one character at a time. -/
theorem decode_flatMap_escape (cs : List Char) {fuel : Nat} (hfuel : cs.length < fuel) :
    StringLiteral.decode false fuel (cs.flatMap escape) = some (ofChars cs) := by
  induction cs generalizing fuel with
  | nil =>
    obtain ⟨fuel, rfl⟩ := Nat.exists_eq_succ_of_ne_zero hfuel.ne'
    rfl
  | cons c cs ih =>
    obtain ⟨fuel, rfl⟩ := Nat.exists_eq_succ_of_ne_zero (Nat.ne_zero_of_lt hfuel)
    have hrest : StringLiteral.decode false fuel (cs.flatMap escape) = some (ofChars cs) :=
      ih (by simpa using hfuel)
    obtain ⟨hescape, hplain⟩ | ⟨start, digits, hescape, -, -, hstart⟩ := escape_cases c
    · simp [hescape, StringLiteral.decode, hplain.1, hrest]
    · simp only [List.flatMap_cons, hescape, List.cons_append, StringLiteral.decode, if_true]
      rw [← List.cons_append, hstart, Option.bind_eq_bind, Option.bind_some, hrest]
      rfl

/-- What is decoded to one text is one text. -/
theorem flatMap_escape_injective {cs ds : List Char}
    (h : cs.flatMap escape = ds.flatMap escape) : cs = ds := by
  have hcs := decode_flatMap_escape cs (Nat.lt_succ_of_le (Nat.le_max_left _ ds.length))
  have hds := decode_flatMap_escape ds (Nat.lt_succ_of_le (Nat.le_max_right cs.length _))
  rw [h, hds, Option.some.injEq] at hcs
  exact ofChars_injective hcs.symm

/-- No text closes its own quoted string. -/
theorem encode_append_inj {cs ds r s : List Char} (h : encode cs ++ r = encode ds ++ s) :
    cs = ds ∧ r = s := by
  simp only [encode, List.cons_append, List.append_assoc, List.cons.injEq, true_and,
    List.nil_append] at h
  have hlength := congrArg (Lexeme.shortString '"') h
  rw [shortString_flatMap_escape, shortString_flatMap_escape, Option.some.injEq,
    Nat.add_right_cancel_iff] at hlength
  obtain ⟨hbody, hrest⟩ := List.append_inj h hlength
  exact ⟨flatMap_escape_injective hbody, (List.cons.inj hrest).2⟩

/-! ## The value of a quoted string -/

theorem ne_of_mem_flatMap_escape {cs : List Char} {c : Char} (h : c ∈ cs.flatMap escape) :
    c ≠ '\r' ∧ c ≠ '\x00' := by
  have hplain {d : Char} (hd : IsPlain d) : d ≠ '\r' ∧ d ≠ '\x00' := by
    refine ⟨?_, hd.2.2.2⟩
    rintro rfl
    cases hd.2.2.1
  have hall : ('\\' :: escapeStarts).all (fun d ↦ d ≠ '\r' ∧ d ≠ '\x00') = true := by decide
  have hstarts : ∀ d ∈ '\\' :: escapeStarts, d ≠ '\r' ∧ d ≠ '\x00' := by
    simpa only [List.all_eq_true, decide_eq_true_eq] using hall
  obtain ⟨x, -, hx⟩ := List.mem_flatMap.1 h
  obtain ⟨hescape, hx'⟩ | ⟨start, digits, hescape, hstart, hdigits, -⟩ := escape_cases x
  · rw [hescape, List.mem_singleton] at hx
    exact hx ▸ hplain hx'
  · rw [hescape, List.mem_cons, List.mem_cons] at hx
    rcases hx with rfl | rfl | hmem
    · exact hstarts _ (by simp)
    · exact hstarts _ (by simp [hstart])
    · exact hplain (hdigits c hmem)

theorem unifyLineEnds_of_forall_ne {cs : List Char} (h : ∀ c ∈ cs, c ≠ '\r') :
    StringLiteral.unifyLineEnds cs = cs := by
  induction cs with
  | nil => rfl
  | cons c cs ih =>
    have hc : c ≠ '\r' := h c (by simp)
    rw [StringLiteral.unifyLineEnds, ih fun d hd ↦ h d (by simp [hd])]
    all_goals simp [hc]

/-- A quoted string does not open a long one. -/
theorem opensLong_encode (cs : List Char) {after : List Char} (h : after.head? ≠ some '"') :
    Lexeme.opensLong '"' (encode cs ++ after) = false := by
  cases cs with
  | nil =>
    cases after with
    | nil => rfl
    | cons d rest => simp_all [Lexeme.opensLong, encode]
  | cons c cs =>
    obtain ⟨d, rest, hescape, hd⟩ := exists_escape_eq_cons c
    simp [Lexeme.opensLong, encode, hescape, hd]

theorem parts_encode (cs : List Char) :
    StringLiteral.parts (encode cs) = ⟨false, false, cs.flatMap escape⟩ := by
  have hmark : (encode cs).takeWhile Lexeme.isAsciiLetter = [] := rfl
  have hlong : Lexeme.opensLong '"' (encode cs ++ []) = false := opensLong_encode cs (by simp)
  rw [List.append_nil] at hlong
  have hbody : ((encode cs).drop 1).take ((encode cs).length - 2 * 1) = cs.flatMap escape := by
    simp [encode]
  have hends : StringLiteral.unifyLineEnds (cs.flatMap escape) = cs.flatMap escape :=
    unifyLineEnds_of_forall_ne fun c hc ↦ (ne_of_mem_flatMap_escape hc).1
  have hhead : (encode cs).headD '"' = '"' := rfl
  simp only [StringLiteral.parts, hmark, List.map_nil, List.length_nil, List.drop_zero, hhead, hlong,
    Bool.false_and, Bool.false_eq_true, if_false, hbody, hends]
  rfl

/-- A quoted string stands for the text that was quoted. -/
theorem value?_encode (cs : List Char) : StringLiteral.value? (encode cs) = some (ofChars cs) := by
  have hnull : (encode cs).contains '\x00' = false := by
    rw [List.contains_eq_mem, decide_eq_false_iff_not, encode, List.cons_append, List.mem_cons,
      List.mem_append, List.mem_singleton]
    rintro (hquote | hmem | hquote)
    · exact absurd hquote (by decide)
    · exact (ne_of_mem_flatMap_escape hmem).2 rfl
    · exact absurd hquote (by decide)
  have hlength : cs.length ≤ (cs.flatMap escape).length := by
    clear hnull
    induction cs with
    | nil => exact Nat.le_refl _
    | cons c cs ih =>
      obtain ⟨d, rest, hescape, -⟩ := exists_escape_eq_cons c
      rw [List.flatMap_cons, List.length_append, hescape, List.length_cons, List.length_cons]
      omega
  simp only [StringLiteral.value?, parts_encode, hnull, Bool.false_eq_true, if_false,
    StringLiteral.contents]
  exact decode_flatMap_escape cs (by omega)

end StarlarkMacro.Text.Quoted
