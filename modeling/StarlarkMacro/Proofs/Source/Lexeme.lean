import StarlarkMacro.Proofs.Decimal.Numeral
import StarlarkMacro.Proofs.Source.Quoted
import StarlarkMacro.Proofs.Source.Scan
import Mathlib.Tactic.IntervalCases

/-!
# The longest token at a place

When a symbol, a word, a number or a quoted string is the longest token where it stands. A symbol must not
go on as a longer one; a word or a number ends where its characters do; a quoted string ends at its closing
quote, unless it is empty and another quote follows.
-/

namespace StarlarkMacro.Source.Layout

open Lexeme
open Text (StartsOutside)

variable {waiting waiting' : List Symbol} {after : List Char}

/-- One step that takes a whole text, from whatever place and inside whatever blocks. -/
theorem isTaken_of_codeStep {kind : TokenKind} {text : List Char} (hne : text ≠ [])
    (h : ∀ offset blocks lineOpen, codeStep (code (text ++ after) offset blocks waiting lineOpen) =
      some ([⟨kind, offset, offset + text.length⟩],
        some (code after (offset + text.length) blocks waiting' true))) :
    IsTaken kind text after waiting waiting' := by
  intro offset blocks lineOpen
  refine .of_step (by rw [step_code, h]) ?_
  have hlength := List.length_pos_of_ne_nil hne
  simp only [potential_code, List.length_append]
  omega

/-- Inside a line the first character tells how the next token is taken. -/
theorem codeStep_cons {s : State} {c : Char} {cs : List Char} (h : s.rest = c :: cs) :
    codeStep s =
      if isBlank c then some ([], some (s.skip 1))
      else if isLineEnd c then some (endLine s)
      else if c = '\\' then joinLine s
      else if c = '#' then some ([], some (s.skip (commentLength cs + 1)))
      else if isWordStart c then wordStep s
      else if isQuote c then stringStep s [] s.rest
      else if startsNumber s.rest then do
        let n ← number s.rest
        some (goOn (s.take (.number (isImaginary (s.rest.take n))) n))
      else symbolStep s := by
  unfold codeStep
  split
  · simp_all
  · rename_i hrest
    rw [h] at hrest
    cases hrest
    rfl

/-! ## Symbols -/

/-- The brackets that are open behind a symbol. -/
def waitingBehind (symbol : Symbol) (waiting : List Symbol) : Option (List Symbol) :=
  match opening? symbol with
  | some closing => some (closing :: waiting)
  | none =>
    if isClosing symbol then
      match waiting with
      | closing :: outer => if closing = symbol then some outer else none
      | [] => none
    else some waiting

/-- No frame of a formatted string is open, so the frames behind a symbol are again brackets. -/
theorem framesBehind_map_bracket (symbol : Symbol) (waiting : List Symbol) :
    framesBehind symbol (waiting.map .bracket) =
      (waitingBehind symbol waiting).map (List.map .bracket) := by
  unfold framesBehind waitingBehind
  cases hopening : opening? symbol with
  | some closing => rfl
  | none =>
    cases hclosing : isClosing symbol with
    | false => rfl
    | true =>
      cases waiting with
      | nil => cases symbol <;> rfl
      | cons closing outer =>
        by_cases heq : closing = symbol
        · cases symbol <;> simp_all
        · cases symbol <;> simp_all

/-- The characters that begin a token which is not a symbol, and those between tokens. -/
def startsOther (c : Char) : Bool :=
  isBlank c || isLineEnd c || c = '\\' || c = '#' || isWordStart c || isQuote c || isDigit c

/-- A symbol is taken when no longer one begins there and nothing but a symbol can begin there. If it closes
a bracket, it is the one that the innermost open bracket waits for. -/
theorem isTaken_symbol {symbol : Symbol} {c : Char} {cs : List Char}
    (hlongest : Symbol.longest? (c :: cs ++ after) = some (symbol, (c :: cs).length))
    (hwaiting : waitingBehind symbol waiting = some waiting') (hstart : startsOther c = false)
    (hnumber : startsNumber (c :: cs ++ after) = false) :
    IsTaken (.symbol symbol) (c :: cs) after waiting waiting' := by
  refine isTaken_of_codeStep (by simp) fun offset blocks lineOpen ↦ ?_
  simp only [startsOther, Bool.or_eq_false_iff, decide_eq_false_iff_not] at hstart
  obtain ⟨⟨⟨⟨⟨⟨hblank, hend⟩, hbackslash⟩, hcomment⟩, hword⟩, hquote⟩, -⟩ := hstart
  have hsymbol : symbolStep (code (c :: cs ++ after) offset blocks waiting lineOpen) =
      some ([⟨.symbol symbol, offset, offset + (c :: cs).length⟩],
        some (code after (offset + (c :: cs).length) blocks waiting' true)) := by
    have hframes := framesBehind_map_bracket symbol waiting
    rw [hwaiting, Option.map_some] at hframes
    unfold symbolStep
    cases waiting with
    | nil =>
      simp only [code, hlongest, hframes, Option.bind_eq_bind, Option.bind_some]
      simp [goOn, State.take, State.token, State.skip]
    | cons closing outer =>
      simp only [code, hlongest, hframes, Option.bind_eq_bind, Option.bind_some]
      simp [goOn, State.take, State.token, State.skip]
  rw [← hsymbol, codeStep_cons rfl, if_neg (by simp [hblank]), if_neg (by simp [hend]),
    if_neg hbackslash, if_neg hcomment, if_neg (by simp [hword]), if_neg (by simp [hquote]),
    if_neg (by simpa [code] using hnumber)]

/-- A second dot could make an ellipsis. -/
theorem longest?_dot {c : Char} (cs : List Char) (h : c ≠ '.') :
    Symbol.longest? ('.' :: c :: cs) = some (.dot, 1) := by
  unfold Symbol.longest?
  split <;> rename_i heq <;> first
    | rfl
    | exact absurd (List.cons.inj heq).1 (by decide)
    | exact absurd (List.cons.inj (List.cons.inj heq).2).1 h
    | exact (‹∀ tail, '.' :: c :: cs = '.' :: tail → False› _ rfl).elim

/-- An equals sign would make an assignment, an angle an arrow. -/
theorem longest?_minus {c : Char} (cs : List Char) (h : c ≠ '=') (h' : c ≠ '>') :
    Symbol.longest? ('-' :: c :: cs) = some (.minus, 1) := by
  unfold Symbol.longest?
  split <;> rename_i heq <;> first
    | rfl
    | exact absurd (List.cons.inj heq).1 (by decide)
    | exact absurd (List.cons.inj (List.cons.inj heq).2).1 h
    | exact absurd (List.cons.inj (List.cons.inj heq).2).1 h'
    | exact (‹∀ tail, '-' :: c :: cs = '-' :: tail → False› _ rfl).elim

section Bracket

variable (waiting) (after)

theorem isTaken_leftParen :
    IsTaken (.symbol .leftParen) ['('] after waiting (.rightParen :: waiting) :=
  isTaken_symbol rfl rfl rfl rfl

theorem isTaken_rightParen :
    IsTaken (.symbol .rightParen) [')'] after (.rightParen :: waiting) waiting :=
  isTaken_symbol rfl rfl rfl rfl

theorem isTaken_leftBracket :
    IsTaken (.symbol .leftBracket) ['['] after waiting (.rightBracket :: waiting) :=
  isTaken_symbol rfl rfl rfl rfl

theorem isTaken_rightBracket :
    IsTaken (.symbol .rightBracket) [']'] after (.rightBracket :: waiting) waiting :=
  isTaken_symbol rfl rfl rfl rfl

theorem isTaken_leftBrace :
    IsTaken (.symbol .leftBrace) ['\x7b'] after waiting (.rightBrace :: waiting) :=
  isTaken_symbol rfl rfl rfl rfl

theorem isTaken_rightBrace :
    IsTaken (.symbol .rightBrace) ['\x7d'] after (.rightBrace :: waiting) waiting :=
  isTaken_symbol rfl rfl rfl rfl

theorem isTaken_comma : IsTaken (.symbol .comma) [','] after waiting waiting :=
  isTaken_symbol rfl rfl rfl rfl

/-- A colon could go on as a walrus, so what follows it is fixed here and in the next lemma. -/
theorem isTaken_colon_space : IsTaken (.symbol .colon) [':'] (' ' :: after) waiting waiting :=
  isTaken_symbol rfl rfl rfl rfl

theorem isTaken_colon_lineFeed : IsTaken (.symbol .colon) [':'] ('\n' :: after) waiting waiting :=
  isTaken_symbol rfl rfl rfl rfl

theorem isTaken_equal_space : IsTaken (.symbol .equal) ['='] (' ' :: after) waiting waiting :=
  isTaken_symbol rfl rfl rfl rfl

/-- A dot in front of a digit would begin a number. -/
theorem isTaken_dot {c : Char} (h : c ≠ '.') (hdigit : isDigit c = false) :
    IsTaken (.symbol .dot) ['.'] (c :: after) waiting waiting :=
  isTaken_symbol (longest?_dot after h) rfl rfl hdigit

theorem isTaken_minus {c : Char} (h : c ≠ '=') (h' : c ≠ '>') :
    IsTaken (.symbol .minus) ['-'] (c :: after) waiting waiting :=
  isTaken_symbol (longest?_minus after h h') rfl rfl rfl

end Bracket

/-! ## Words -/

/-- A word ends where its characters do, and no quote follows it. -/
def EndsWord (after : List Char) : Prop :=
  ∀ c rest, after = c :: rest → isWordChar c = false ∧ isQuote c = false

theorem class_of_isWordStart {c : Char} (h : isWordStart c = true) :
    isBlank c = false ∧ isLineEnd c = false ∧ c ≠ '\\' ∧ c ≠ '#' := by
  refine ⟨?_, ?_, ?_, ?_⟩
  · by_contra hblank
    simp only [isBlank, Bool.not_eq_false, Bool.or_eq_true, decide_eq_true_eq] at hblank
    rcases hblank with (rfl | rfl) | rfl <;> exact absurd h (by decide)
  · by_contra hend
    simp only [isLineEnd, Bool.not_eq_false, Bool.or_eq_true, decide_eq_true_eq] at hend
    rcases hend with rfl | rfl <;> exact absurd h (by decide)
  · rintro rfl
    exact absurd h (by decide)
  · rintro rfl
    exact absurd h (by decide)

/-- Names and keywords alike: the kind is what the whole word is looked up as. A quote behind the word would
make it the prefix of a string. -/
theorem isTaken_word {kind : TokenKind} {c : Char} {cs : List Char} (hstart : isWordStart c = true)
    (hword : ∀ d ∈ cs, isWordChar d = true) (hkind : wordKind? (c :: cs) = some kind)
    (hafter : EndsWord after) : IsTaken kind (c :: cs) after waiting waiting := by
  refine isTaken_of_codeStep (by simp) fun offset blocks lineOpen ↦ ?_
  have hall : ∀ d ∈ c :: cs, isWordChar d = true := by
    intro d hd
    rcases List.mem_cons.1 hd with rfl | hmem
    · simp [isWordChar, hstart]
    · exact hword d hmem
  have hout : StartsOutside isWordChar after := fun d rest h ↦ (hafter d rest h).1
  have htake : (c :: cs ++ after).takeWhile isWordChar = c :: cs :=
    Text.takeWhile_word_append hall hout
  have hquote : isQuote (after.headD ' ') = false := by
    cases after with
    | nil => rfl
    | cons d rest => exact (hafter d rest rfl).2
  have hstep : wordStep (code (c :: cs ++ after) offset blocks waiting lineOpen) =
      some ([⟨kind, offset, offset + (c :: cs).length⟩],
        some (code after (offset + (c :: cs).length) blocks waiting true)) := by
    simp only [wordStep, code, htake, List.drop_left, hquote, Bool.and_false, Bool.false_eq_true,
      if_false, hkind, Option.map_some, goOn, State.take, State.token, State.skip]
  obtain ⟨hblank, hend, hbackslash, hcomment⟩ := class_of_isWordStart hstart
  rw [← hstep, codeStep_cons rfl, if_neg (by simp [hblank]), if_neg (by simp [hend]),
    if_neg hbackslash, if_neg hcomment, if_pos hstart]

/-! ## Numbers -/

/-- Behind a number stands neither a character of a word nor a point. -/
def EndsNumber (after : List Char) : Prop :=
  ∀ c rest, after = c :: rest → isWordChar c = false ∧ c ≠ '.'

/-- Neither a digit nor the underscore between digits. -/
def isDigitPart (c : Char) : Bool := isDigit c || c = '_'

/-- The digits of numbers are the ASCII ones. -/
theorem isDigit_eq (c : Char) : isDigit c = c.isDigit := by
  rw [Bool.eq_iff_iff]
  simp only [isDigit, Char.isDigit, Bool.and_eq_true, decide_eq_true_eq, ge_iff_le]
  exact Iff.rfl

section Number

variable {digits tail : List Char}

/-- Digits without underscores between them are taken as far as they go. -/
theorem digitTail_append (hdigits : ∀ c ∈ digits, c.isDigit = true)
    (htail : StartsOutside isDigitPart tail) :
    digitTail isDigit (digits ++ tail) = some digits.length := by
  induction digits with
  | nil =>
    cases tail with
    | nil => rfl
    | cons c tail =>
      have hc := htail c tail rfl
      simp only [isDigitPart, Bool.or_eq_false_iff, decide_eq_false_iff_not] at hc
      rw [List.nil_append, digitTail, if_neg (by simp [hc.1])]
      · rfl
      · simp [hc.2]
      · simp [hc.2]
  | cons c digits ih =>
    have hc : isDigit c = true := by rw [isDigit_eq]; exact hdigits c (by simp)
    have hunderscore : c ≠ '_' := by
      rintro rfl
      exact absurd hc (by decide)
    rw [List.cons_append, digitTail, if_pos hc, ih fun d hd ↦ hdigits d (by simp [hd])]
    · rfl
    · simp [hunderscore]
    · simp [hunderscore]

theorem fractionLength_of_ne_point (h : ∀ rest, tail ≠ '.' :: rest) :
    fractionLength tail = some 0 := by
  unfold fractionLength
  split
  · exact absurd rfl (h _)
  · exact absurd rfl (h _)
  · rfl

/-- A fraction is the point with all digits behind it. -/
theorem fractionLength_point (hne : digits ≠ []) (hdigits : ∀ c ∈ digits, c.isDigit = true)
    (htail : StartsOutside isDigitPart tail) :
    fractionLength ('.' :: digits ++ tail) = some (digits.length + 1) := by
  obtain ⟨c, rest, rfl⟩ := List.exists_cons_of_ne_nil hne
  have hc : isDigit c = true := by rw [isDigit_eq]; exact hdigits c (by simp)
  simp only [List.cons_append, fractionLength, if_pos hc]
  rw [digitTail_append (fun d hd ↦ hdigits d (by simp [hd])) htail]
  rfl

theorem exponentLength_of_ne_mark (h : ∀ c rest, tail = c :: rest → c ≠ 'e' ∧ c ≠ 'E') :
    exponentLength tail = some 0 := by
  unfold exponentLength
  split
  · obtain ⟨he, hE⟩ := h _ _ rfl
    simp [he, hE]
  · obtain ⟨he, hE⟩ := h _ _ rfl
    simp [he, hE]
  · rfl

/-- The exponents of floats always have a sign, so no other form is needed. -/
theorem exponentLength_mark {sign : Char} (hsign : sign = '+' ∨ sign = '-') (hne : digits ≠ [])
    (hdigits : ∀ c ∈ digits, c.isDigit = true) (htail : StartsOutside isDigitPart tail) :
    exponentLength ('e' :: sign :: digits ++ tail) = some (digits.length + 2) := by
  obtain ⟨c, rest, rfl⟩ := List.exists_cons_of_ne_nil hne
  have hc : isDigit c = true := by rw [isDigit_eq]; exact hdigits c (by simp)
  have hrest := digitTail_append (fun d hd ↦ hdigits d (List.mem_cons_of_mem _ hd)) htail
  rcases hsign with rfl | rfl <;> simp [exponentLength, hc, hrest]

theorem imaginaryLength_of_endsNumber (h : EndsNumber tail) : imaginaryLength tail = 0 := by
  cases tail with
  | nil => rfl
  | cons c tail =>
    have hword := (h c tail rfl).1
    have hj : c ≠ 'j' := by
      rintro rfl
      exact absurd hword (by decide)
    have hJ : c ≠ 'J' := by
      rintro rfl
      exact absurd hword (by decide)
    simp [imaginaryLength, hj, hJ]

/-- A number whose fraction and exponent are known has no leading zero, or one of the two. -/
theorem decimalNumber_append {fraction exponent : Nat} (hne : digits ≠ [])
    (hdigits : ∀ c ∈ digits, c.isDigit = true) (htail : StartsOutside isDigitPart tail)
    (hfraction : fractionLength tail = some fraction)
    (hexponent : exponentLength (tail.drop fraction) = some exponent)
    (hmark : imaginaryLength (tail.drop (fraction + exponent)) = 0)
    (hzero : (digits.head? = some '0' → ∀ c ∈ digits, c = '0') ∨ 0 < fraction + exponent) :
    decimalNumber (digits ++ tail) = some (digits.length + fraction + exponent) := by
  have hcheck : (digits.head? = some '0' && digits.any (fun c ↦ c != '0' && c != '_')
      && decide (fraction + exponent + 0 = 0)) = false := by
    rcases hzero with hall | hpositive
    · by_cases hhead : digits.head? = some '0'
      · have hany : digits.any (fun c ↦ c != '0' && c != '_') = false := by
          rw [List.any_eq_false]
          intro c hc
          simp [hall hhead c hc]
        simp [hany]
      · simp [hhead]
    · have hsum : fraction + exponent + 0 ≠ 0 := by omega
      rw [decide_eq_false hsum, Bool.and_false]
  have hdrop : (digits ++ tail).drop (digits.length + fraction) = tail.drop fraction :=
    List.drop_length_add_append fraction
  have hdrop' : (digits ++ tail).drop (digits.length + fraction + exponent) =
      tail.drop (fraction + exponent) := by
    rw [Nat.add_assoc, List.drop_length_add_append]
  have hpoint : ∀ rest, digits ++ tail ≠ '.' :: rest := by
    obtain ⟨c, rest, rfl⟩ := List.exists_cons_of_ne_nil hne
    intro rest' heq
    have hc : c = '.' := (List.cons.inj heq).1
    exact absurd (hdigits c (by simp)) (by rw [hc]; decide)
  unfold decimalNumber
  split
  · exact absurd ‹_› (hpoint _)
  · simp only [digitTail_append hdigits htail, Option.bind_eq_bind, Option.bind_some, List.drop_left,
      hfraction, hdrop, hexponent, hdrop', hmark, List.take_left]
    rw [if_neg (by simpa using hcheck), Nat.add_zero]

/-- The letters that name a base behind a zero. -/
def isBaseMark (c : Char) : Bool := ['x', 'X', 'o', 'O', 'b', 'B'].contains c

/-- Without the mark of another base the number is a decimal one. -/
theorem number_eq_decimalNumber (hne : digits ≠ []) (hdigits : ∀ c ∈ digits, c.isDigit = true)
    (htail : StartsOutside isBaseMark tail) :
    number (digits ++ tail) = decimalNumber (digits ++ tail) := by
  have hbase (mark : Char) (hmark : isBaseMark mark = true) (hdigit : mark.isDigit = false)
      (rest : List Char) : digits ++ tail ≠ '0' :: mark :: rest := by
    obtain ⟨c, more, rfl⟩ := List.exists_cons_of_ne_nil hne
    intro heq
    cases more with
    | nil => exact absurd (htail mark rest (List.cons.inj heq).2) (by simp [hmark])
    | cons d more =>
      have hd : d = mark := (List.cons.inj (List.cons.inj heq).2).1
      exact absurd (hdigits d (by simp)) (by simp [hd, hdigit])
  unfold number
  split
  · exact absurd ‹_› (hbase 'x' rfl rfl _)
  · exact absurd ‹_› (hbase 'X' rfl rfl _)
  · exact absurd ‹_› (hbase 'o' rfl rfl _)
  · exact absurd ‹_› (hbase 'O' rfl rfl _)
  · exact absurd ‹_› (hbase 'b' rfl rfl _)
  · exact absurd ‹_› (hbase 'B' rfl rfl _)
  · rfl

theorem isWordStart_of_isDigit {c : Char} (h : isDigit c = true) : isWordStart c = false := by
  simp only [isDigit, Bool.and_eq_true, decide_eq_true_eq] at h
  have hle : c.toNat ≤ '9'.toNat := h.2
  have hnine : '9'.toNat = 57 := rfl
  have hletter (d : Char) (hd : 57 < d.toNat) : ¬ d ≤ c := by
    intro hdc
    have hle' : d.toNat ≤ c.toNat := hdc
    omega
  have hunderscore : c ≠ '_' := by
    rintro rfl
    exact absurd h.2 (by decide)
  have hhigh : ¬ 0x80 ≤ c.toNat := by omega
  simp [isWordStart, isAsciiLetter, hletter 'a' (by decide), hletter 'A' (by decide), hunderscore,
    hhigh]

/-- The token of a number. -/
def numberKind (text : List Char) : TokenKind := .number (isImaginary text)

/-- A text that begins with a digit and is a number as a whole is taken as one. -/
theorem isTaken_number {text : List Char} (hstart : ∃ c rest, text = c :: rest ∧ c.isDigit = true)
    (hnumber : number (text ++ after) = some text.length) :
    IsTaken (numberKind text) text after waiting waiting := by
  obtain ⟨c, rest, rfl, hc⟩ := hstart
  refine isTaken_of_codeStep (by simp) fun offset blocks lineOpen ↦ ?_
  have hdigit : isDigit c = true := by rw [isDigit_eq, hc]
  have hclass (d : Char) (hd : isDigit d = false) : c ≠ d := by
    rintro rfl
    exact absurd hdigit (by simp [hd])
  have hblank : isBlank c = false := by
    simp [isBlank, hclass ' ' rfl, hclass '\t' rfl, hclass '\x0c' rfl]
  have hend : isLineEnd c = false := by simp [isLineEnd, hclass '\n' rfl, hclass '\r' rfl]
  have hquote : isQuote c = false := by simp [isQuote, hclass '"' rfl, hclass '\x27' rfl]
  have hstarts : startsNumber (c :: rest ++ after) = true := by
    unfold startsNumber
    split <;> rename_i heq
    · exact absurd (List.cons.inj heq).1 (hclass '.' rfl)
    · rwa [← (List.cons.inj heq).1]
    · cases heq
  rw [codeStep_cons rfl, if_neg (by simp [hblank]), if_neg (by simp [hend]),
    if_neg (hclass '\\' rfl), if_neg (hclass '#' rfl),
    if_neg (by simp [isWordStart_of_isDigit hdigit]), if_neg (by simp [hquote]),
    if_pos (by simpa [code] using hstarts)]
  simp only [code, hnumber, Option.bind_eq_bind, Option.bind_some, goOn, State.take, State.token,
    State.skip, List.take_left, List.drop_left, numberKind]

end Number

theorem endsNumber_startsOutside (h : EndsNumber after) {p : Char → Bool}
    (hp : ∀ c, p c = true → isWordChar c = true) : StartsOutside p after := by
  intro c rest hafter
  by_contra hc
  have hword := hp c (by simpa using hc)
  simp [(h c rest hafter).1] at hword

theorem isWordChar_of_isDigitPart {c : Char} (h : isDigitPart c = true) : isWordChar c = true := by
  simp only [isDigitPart, Bool.or_eq_true, decide_eq_true_eq] at h
  rcases h with hdigit | rfl
  · simp [isWordChar, hdigit]
  · rfl

theorem isWordChar_of_isBaseMark {c : Char} (h : isBaseMark c = true) : isWordChar c = true := by
  simp only [isBaseMark, List.contains_eq_mem, List.mem_cons, List.not_mem_nil, or_false,
    decide_eq_true_eq] at h
  rcases h with rfl | rfl | rfl | rfl | rfl | rfl <;> rfl

theorem EndsNumber.startsOutside_digitPart (h : EndsNumber after) : StartsOutside isDigitPart after :=
  endsNumber_startsOutside h fun _ ↦ isWordChar_of_isDigitPart

theorem EndsNumber.ne_mark (h : EndsNumber after) :
    ∀ c rest, after = c :: rest → c ≠ 'e' ∧ c ≠ 'E' := by
  intro c rest hafter
  have hword := (h c rest hafter).1
  constructor
  all_goals
    rintro rfl
    exact absurd hword (by decide)

/-- A number that starts with a zero and goes on would not be decimal. -/
theorem head?_toDigits_ne_zero {n : Nat} (hn : n ≠ 0) : (Nat.toDigits 10 n).head? ≠ some '0' := by
  induction n using Nat.strongRecOn with
  | ind n ih =>
    by_cases hlt : n < 10
    · rw [Nat.toDigits_of_lt_base hlt]
      interval_cases n <;> simp_all [Nat.digitChar]
    · have hquotient := ih (n / 10) (by omega) (by omega)
      rw [Nat.toDigits_of_base_le (by decide) (by omega)]
      obtain ⟨c, rest, hdigits⟩ := List.exists_cons_of_ne_nil (Nat.toDigits_ne_nil (n := n / 10) (b := 10))
      rw [hdigits] at hquotient ⊢
      exact hquotient

/-- The digits of a natural number are one number. -/
theorem number_toDigits (n : Nat) (h : EndsNumber after) :
    number (Nat.toDigits 10 n ++ after) = some (Nat.toDigits 10 n).length := by
  have hdigits : ∀ c ∈ Nat.toDigits 10 n, c.isDigit = true :=
    fun _ hc ↦ Nat.isDigit_of_mem_toDigits (by decide) (by decide) hc
  have hzero : (Nat.toDigits 10 n).head? = some '0' → ∀ c ∈ Nat.toDigits 10 n, c = '0' := by
    intro hhead
    have hn : n = 0 := by
      by_contra hn
      exact head?_toDigits_ne_zero hn hhead
    subst hn
    simp [Nat.toDigits_zero]
  rw [number_eq_decimalNumber Nat.toDigits_ne_nil hdigits
    (endsNumber_startsOutside h fun _ ↦ isWordChar_of_isBaseMark)]
  exact decimalNumber_append Nat.toDigits_ne_nil hdigits h.startsOutside_digitPart
    (fractionLength_of_ne_point fun rest hafter ↦ (h '.' rest hafter).2 rfl)
    (exponentLength_of_ne_mark h.ne_mark) (imaginaryLength_of_endsNumber h) (.inl hzero)

section Numeral

variable (n : Decimal.Numeral) (h : EndsNumber after)
include h

theorem fractionLength_numeral :
    fractionLength (n.tailText ++ after) = some n.fractionText.length := by
  have hexponent : StartsOutside isDigitPart (n.exponent.elim [] Double.exponentText ++ after) := by
    cases n.exponent with
    | none => exact h.startsOutside_digitPart
    | some e => exact .cons rfl
  rw [Decimal.Numeral.tailText, List.append_assoc, Decimal.Numeral.fractionText]
  by_cases hfraction : n.fraction = []
  · rw [if_pos hfraction, List.nil_append, List.length_nil]
    refine fractionLength_of_ne_point fun rest heq ↦ ?_
    cases he : n.exponent with
    | none =>
      rw [he] at heq
      exact (h '.' rest heq).2 rfl
    | some e => simp [he, Double.exponentText] at heq
  · rw [if_neg hfraction, fractionLength_point hfraction n.isDigit_of_mem_fraction hexponent,
      List.length_cons]

theorem exponentLength_numeral :
    exponentLength (n.exponent.elim [] Double.exponentText ++ after) =
      some (n.exponent.elim [] Double.exponentText).length := by
  cases n.exponent with
  | none => exact exponentLength_of_ne_mark h.ne_mark
  | some e =>
    have hdigits : Double.zeros (2 - (Nat.toDigits 10 e.natAbs).length) ++ Nat.toDigits 10 e.natAbs ≠
        [] := by simp [Nat.toDigits_ne_nil]
    have hsign : (if e < 0 then '-' else '+') = '+' ∨ (if e < 0 then '-' else '+') = '-' := by
      split <;> simp
    have hlength := exponentLength_mark hsign
      hdigits (fun _ hc ↦ Decimal.Numeral.isDigit_of_mem_exponentDigits hc) h.startsOutside_digitPart
    simpa [Double.exponentText] using hlength

omit h in
/-- Behind its first digits a numeral goes on with a point, with the mark of the exponent or not at all. -/
theorem startsOutside_numeralTail {p : Char → Bool} (hpoint : p '.' = false) (hmark : p 'e' = false)
    (rest : List Char) : StartsOutside p (n.tailText ++ rest) := by
  obtain ⟨c, tail, htail, rfl | rfl⟩ := n.exists_tailText_eq_cons
  · rw [htail]
    exact .cons hpoint
  · rw [htail]
    exact .cons hmark

/-- The text of a numeral is one number: digits, perhaps a fraction, perhaps an exponent. -/
theorem number_numeral : number (n.text ++ after) = some n.text.length := by
  have hfraction := fractionLength_numeral n h
  have hexponent : exponentLength ((n.tailText ++ after).drop n.fractionText.length) =
      some (n.exponent.elim [] Double.exponentText).length := by
    rw [Decimal.Numeral.tailText, List.append_assoc, List.drop_left]
    exact exponentLength_numeral n h
  have hlength : n.tailText.length =
      n.fractionText.length + (n.exponent.elim [] Double.exponentText).length := List.length_append
  have hmark : imaginaryLength ((n.tailText ++ after).drop
      (n.fractionText.length + (n.exponent.elim [] Double.exponentText).length)) = 0 := by
    rw [← hlength, List.drop_left]
    exact imaginaryLength_of_endsNumber h
  have hpositive : 0 < n.tailText.length := by
    obtain ⟨c, rest, htail, -⟩ := n.exists_tailText_eq_cons
    rw [htail]
    exact Nat.succ_pos _
  rw [Decimal.Numeral.text, List.append_assoc,
    number_eq_decimalNumber n.whole_ne_nil n.isDigit_of_mem_whole
      (startsOutside_numeralTail n rfl rfl after),
    decimalNumber_append n.whole_ne_nil n.isDigit_of_mem_whole
      (startsOutside_numeralTail n rfl rfl after) hfraction hexponent hmark
      (.inr (hlength ▸ hpositive)),
    List.length_append, hlength, Nat.add_assoc]

end Numeral

/-! ## Strings -/

/-- A quoted string ends at its closing quote unless it is empty and followed by a quote. -/
theorem quotedString_encode (cs : List Char) (h : after.head? ≠ some '"') :
    quotedString (Text.Quoted.encode cs ++ after) = some (Text.Quoted.encode cs).length := by
  have hshort := Text.Quoted.shortString_flatMap_escape cs after
  have hlong := Text.Quoted.opensLong_encode cs h
  simp only [Text.Quoted.encode, List.cons_append, List.append_assoc, List.nil_append] at hlong ⊢
  rw [quotedString, if_neg (by simp [hlong]), hshort]
  simp

theorem isTaken_string (cs : List Char) (h : after.head? ≠ some '"') :
    IsTaken (.string (Text.Quoted.encode cs)) (Text.Quoted.encode cs) after waiting waiting := by
  refine isTaken_of_codeStep (by simp [Text.Quoted.encode]) fun offset blocks lineOpen ↦ ?_
  have hquoted := quotedString_encode cs h
  have hstep : stringStep (code (Text.Quoted.encode cs ++ after) offset blocks waiting lineOpen) []
      (Text.Quoted.encode cs ++ after) =
      some ([⟨.string (Text.Quoted.encode cs), offset, offset + (Text.Quoted.encode cs).length⟩],
        some (code after (offset + (Text.Quoted.encode cs).length) blocks waiting true)) := by
    have hmark : isStringMark [] = true := rfl
    simp only [stringStep, hmark, if_true, hquoted, Option.bind_eq_bind, Option.bind_some, code,
      List.length_nil, Nat.zero_add, List.take_left, goOn, State.take, State.token, State.skip,
      List.drop_left]
  rw [← hstep]
  rfl

end StarlarkMacro.Source.Layout
