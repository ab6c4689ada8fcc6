import StarlarkMacro.Proofs.Literal.Datum
import StarlarkMacro.Proofs.Source.Quoted

/-!
# Data are read uniquely

The text of a datum in front of any text that does not go on with a letter, a digit, a point or a sign
determines the datum and where its text ends. The opening character tells the strings and containers
apart, what is left are words and numbers; a string ends at its own quote, and behind a member stands
either the separator of another one or what closes the container.
-/

namespace StarlarkMacro.Datum

open Text (StartsOutside)

/-! ## Words and numbers -/

/-- The characters of the texts that have neither quotes nor brackets. -/
def isScalarChar (c : Char) : Bool := c.isAlphanum || c = '.' || c = '-' || c = '+'

def isNumeric (c : Char) : Bool := c.isDigit || c = '-'

theorem isNumeric_of_mem_intText {n : Int} {c : Char} (h : c ∈ Value.intText n) :
    isNumeric c = true := by
  rcases List.mem_append.1 h with hsign | hdigit
  · have hminus : c = '-' := by
      split at hsign
      · simpa using hsign
      · cases hsign
    rw [hminus]
    rfl
  · rw [isNumeric, Nat.isDigit_of_mem_toDigits (by decide) (by decide) hdigit]
    rfl

/-- A number has a digit. -/
theorem intText_ne_nil (n : Int) : Value.intText n ≠ [] := by
  have hdigits : Nat.toDigits 10 n.natAbs ≠ [] := Nat.toDigits_ne_nil
  simp [Value.intText, hdigits]

theorem intText_injective {m n : Int} (h : Value.intText m = Value.intText n) : m = n := by
  have hdigit (k : Nat) : (Nat.toDigits 10 k).head? ≠ some '-' := by
    intro hhead
    have hmem := List.mem_of_mem_head? hhead
    exact absurd (Nat.isDigit_of_mem_toDigits (by decide) (by decide) hmem) (by decide)
  have habs (j k : Nat) (hjk : Nat.toDigits 10 j = Nat.toDigits 10 k) : j = k := by
    simpa only [Nat.ofDigitChars_ten_toDigits] using congrArg (Nat.ofDigitChars 10 · 0) hjk
  unfold Value.intText at h
  by_cases hm : m < 0 <;> by_cases hn : n < 0
  · simp only [hm, hn, if_true, List.singleton_append, List.cons.injEq, true_and] at h
    have hmn := habs _ _ h
    omega
  · simp only [hm, hn, if_true, if_false, List.singleton_append, List.nil_append] at h
    exact absurd (by rw [← h]; rfl) (hdigit n.natAbs)
  · simp only [hm, hn, if_true, if_false, List.singleton_append, List.nil_append] at h
    exact absurd (by rw [h]; rfl) (hdigit m.natAbs)
  · simp only [hm, hn, if_false, List.nil_append] at h
    have hmn := habs _ _ h
    omega

section Float

variable {x : Double} (finite : x.isFinite = true)
include finite

theorem exists_text_eq_numeral : ∃ n : Decimal.Numeral, x.text = x.signText ++ n.text := by
  obtain ⟨n, hn⟩ := Double.exists_numeral_sizeText x
  exact ⟨n, by rw [Double.text_of_isFinite finite, hn]⟩

/-- A float begins with a digit or a minus, as an integer does. -/
theorem exists_numeric_text : ∃ c rest, x.text = c :: rest ∧ isNumeric c = true := by
  obtain ⟨n, hn⟩ := exists_text_eq_numeral finite
  obtain ⟨c, whole, hwhole⟩ := List.exists_cons_of_ne_nil n.whole_ne_nil
  have hc : c.isDigit = true := n.isDigit_of_mem_whole c (by simp [hwhole])
  rw [hn, Double.signText, Decimal.Numeral.text, hwhole]
  split
  · exact ⟨'-', _, rfl, rfl⟩
  · exact ⟨c, _, rfl, by rw [isNumeric, hc]; rfl⟩

/-- The text of a float has a point or the mark of an exponent, which no text of an integer has. -/
theorem exists_not_isNumeric_mem_text : ∃ c ∈ x.text, isNumeric c = false := by
  obtain ⟨n, hn⟩ := exists_text_eq_numeral finite
  obtain ⟨c, rest, htail, hnumeric⟩ := n.exists_tailText_eq_cons
  refine ⟨c, ?_, ?_⟩
  · simp [hn, Decimal.Numeral.text, htail]
  · rcases hnumeric with rfl | rfl <;> rfl

theorem isScalarChar_of_mem_floatText {c : Char} (h : c ∈ x.text) : isScalarChar c = true := by
  have hdigit (d : Char) (hd : d.isDigit = true) : isScalarChar d = true := by
    simp [isScalarChar, Char.isAlphanum, hd]
  obtain ⟨n, hn⟩ := exists_text_eq_numeral finite
  rw [hn, Double.signText] at h
  rcases List.mem_append.1 h with hsign | hnumeral
  · split at hsign
    · obtain rfl := List.mem_singleton.1 hsign
      rfl
    · cases hsign
  · rcases n.of_mem_text hnumeral with hc | rfl | rfl | rfl | rfl
    · exact hdigit c hc
    all_goals rfl

end Float

/-- The opening quote or bracket; words and numbers have none. -/
def opening : Datum → Option Char
  | string _ => some '"'
  | list _ => some '['
  | tuple _ => some '('
  | mapping _ => some '\x7b'
  | none | bool _ | int _ | float .. => Option.none

section Scalar

variable {d e : Datum}

/-- Words and numbers are made of letters, digits, points and signs only. -/
theorem isScalarChar_of_mem_text (h : d.opening = Option.none) {c : Char} (hc : c ∈ d.text) :
    isScalarChar c = true := by
  have hword (word : List Char) (hword : word.all isScalarChar = true) (hmem : c ∈ word) :
      isScalarChar c = true := List.all_eq_true.1 hword c hmem
  cases d with
  | none => exact hword _ (by decide) hc
  | bool b =>
    cases b
    · exact hword _ (by decide) hc
    · exact hword _ (by decide) hc
  | int n =>
    have hnumeric := isNumeric_of_mem_intText hc
    simp only [isNumeric, Bool.or_eq_true, decide_eq_true_eq] at hnumeric
    rcases hnumeric with hdigit | rfl
    · simp [isScalarChar, Char.isAlphanum, hdigit]
    · rfl
  | float x finite => exact isScalarChar_of_mem_floatText finite hc
  | string | list | tuple | mapping => simp [opening] at h

/-- A word begins with a letter, a number does not. -/
def isWord : Datum → Bool
  | none | bool _ => true
  | _ => false

/-- A word begins with a letter and a number does not, so their first characters tell them apart. -/
theorem exists_word_text (h : d.isWord = true) :
    ∃ c rest, d.text = c :: rest ∧ isNumeric c = false := by
  cases d with
  | none => exact ⟨'N', _, rfl, rfl⟩
  | bool b =>
    cases b
    · exact ⟨'F', _, rfl, rfl⟩
    · exact ⟨'T', _, rfl, rfl⟩
  | int | float | string | list | tuple | mapping => cases h

theorem exists_number_text (h : d.opening = Option.none) (hword : d.isWord = false) :
    ∃ c rest, d.text = c :: rest ∧ isNumeric c = true := by
  cases d with
  | int n =>
    obtain ⟨c, rest, htext⟩ := List.exists_cons_of_ne_nil (intText_ne_nil n)
    exact ⟨c, rest, htext, isNumeric_of_mem_intText (htext ▸ List.mem_cons_self)⟩
  | float x finite => exact exists_numeric_text finite
  | none | bool => cases hword
  | string | list | tuple | mapping => cases h

theorem isWord_eq_of_text_eq (hd : d.opening = Option.none) (he : e.opening = Option.none)
    (h : d.text = e.text) : d.isWord = e.isWord := by
  have hmixed {a b : Datum} (hb : b.opening = Option.none) (haword : a.isWord = true)
      (hbword : b.isWord = false) : a.text ≠ b.text := by
    obtain ⟨c, rest, ha, hc⟩ := exists_word_text haword
    obtain ⟨c', rest', hb, hc'⟩ := exists_number_text hb hbword
    rw [ha, hb]
    rintro ⟨⟩
    exact absurd hc' (by simp [hc])
  cases hdw : d.isWord <;> cases hew : e.isWord
  · rfl
  · exact absurd h.symm (hmixed hd hew hdw)
  · exact absurd h (hmixed he hdw hew)
  · rfl

theorem word_text_injective (hd : d.isWord = true) (he : e.isWord = true) (h : d.text = e.text) :
    d = e := by
  cases d with
  | none =>
    cases e with
    | none => rfl
    | bool b => cases b <;> exact absurd h (by decide)
    | _ => cases he
  | bool b =>
    cases e with
    | none => cases b <;> exact absurd h (by decide)
    | bool b' => cases b <;> cases b' <;> first | rfl | exact absurd h (by decide)
    | _ => cases he
  | _ => cases hd

/-- A float is never written as an integer is. -/
theorem int_text_ne_float_text (n : Int) {x : Double} (finite : x.isFinite = true) :
    Value.intText n ≠ x.text := by
  intro h
  obtain ⟨c, hc, hnumeric⟩ := exists_not_isNumeric_mem_text finite
  exact absurd (isNumeric_of_mem_intText (h ▸ hc)) (by simp [hnumeric])

/-- Numbers with the same text are of the same type and equal. -/
theorem number_text_injective (hd : d.opening = Option.none) (he : e.opening = Option.none)
    (hdword : d.isWord = false) (heword : e.isWord = false) (h : d.text = e.text) : d = e := by
  cases d with
  | int n =>
    cases e with
    | int n' => rw [intText_injective h]
    | float x finite => exact absurd h (int_text_ne_float_text n finite)
    | none | bool => cases heword
    | string | list | tuple | mapping => cases he
  | float x finite =>
    cases e with
    | int n => exact absurd h.symm (int_text_ne_float_text n finite)
    | float y finite' =>
      obtain rfl := Double.text_injective finite finite' h
      rfl
    | none | bool => cases heword
    | string | list | tuple | mapping => cases he
  | none | bool => cases hdword
  | string | list | tuple | mapping => cases hd

/-- Words and numbers are told by their whole texts. -/
theorem scalar_text_injective (hd : d.opening = Option.none) (he : e.opening = Option.none)
    (h : d.text = e.text) : d = e := by
  have hword := isWord_eq_of_text_eq hd he h
  cases hdw : d.isWord with
  | true => exact word_text_injective hdw (hword ▸ hdw) h
  | false => exact number_text_injective hd he hdw (hword ▸ hdw) h

end Scalar

/-! ## Openings -/

theorem isScalarChar_opening {d : Datum} {c : Char} (h : d.opening = some c) :
    isScalarChar c = false := by
  cases d <;> cases h <;> rfl

theorem exists_text_eq_opening {d : Datum} {c : Char} (h : d.opening = some c) :
    ∃ rest, d.text = c :: rest := by
  cases d <;> cases h <;> exact ⟨_, rfl⟩

theorem exists_scalar_text {d : Datum} (h : d.opening = Option.none) :
    ∃ c rest, d.text = c :: rest ∧ isScalarChar c = true := by
  have hcons : ∃ c rest, d.text = c :: rest := by
    cases hw : d.isWord with
    | true =>
      obtain ⟨c, rest, htext, -⟩ := exists_word_text hw
      exact ⟨c, rest, htext⟩
    | false =>
      obtain ⟨c, rest, htext, -⟩ := exists_number_text h hw
      exact ⟨c, rest, htext⟩
  obtain ⟨c, rest, htext⟩ := hcons
  exact ⟨c, rest, htext, isScalarChar_of_mem_text h (htext ▸ List.mem_cons_self)⟩

/-- The first character of a text tells its opening. -/
theorem opening_eq_of_append_eq {d e : Datum} {r s : List Char} (h : d.text ++ r = e.text ++ s) :
    d.opening = e.opening := by
  have hmixed {a b : Datum} {r s : List Char} {c : Char} (ha : a.opening = some c)
      (hb : b.opening = Option.none) : a.text ++ r ≠ b.text ++ s := by
    obtain ⟨rest, htext⟩ := exists_text_eq_opening ha
    obtain ⟨c', rest', htext', hc'⟩ := exists_scalar_text hb
    rw [htext, htext']
    intro h
    obtain rfl : c = c' := (List.cons.inj h).1
    exact absurd hc' (by simp [isScalarChar_opening ha])
  cases hd : d.opening with
  | none =>
    cases he : e.opening with
    | none => rfl
    | some c' => exact absurd h.symm (hmixed he hd)
  | some c =>
    cases he : e.opening with
    | none => exact absurd h (hmixed hd he)
    | some c' =>
      obtain ⟨rest, htext⟩ := exists_text_eq_opening hd
      obtain ⟨rest', htext'⟩ := exists_text_eq_opening he
      rw [htext, htext'] at h
      rw [(List.cons.inj h).1]

/-- A word or a number ends where its characters do. -/
theorem scalar_append_inj {d e : Datum} {r s : List Char} (hd : d.opening = Option.none)
    (hr : StartsOutside isScalarChar r) (hs : StartsOutside isScalarChar s)
    (h : d.text ++ r = e.text ++ s) : d = e ∧ r = s := by
  have he : e.opening = Option.none := (opening_eq_of_append_eq h).symm.trans hd
  obtain ⟨htext, hrest⟩ := Text.word_append_inj (fun _ hc ↦ isScalarChar_of_mem_text hd hc) hr
    (fun _ hc ↦ isScalarChar_of_mem_text he hc) hs h
  exact ⟨scalar_text_injective hd he htext, hrest⟩

/-! ## Members -/

/-- What ends a list of members: a closing bracket, or one behind a comma. -/
inductive Closes : List Char → Prop
  | bracket {c : Char} (h : c = ']' ∨ c = ')' ∨ c = '\x7d') (rest : List Char) : Closes (c :: rest)
  | comma (rest : List Char) : Closes (',' :: ')' :: rest)

theorem Closes.startsOutside {r : List Char} (h : Closes r) : StartsOutside isScalarChar r := by
  cases h with
  | bracket h rest =>
    rcases h with rfl | rfl | rfl
    all_goals exact .cons rfl
  | comma rest => exact .cons rfl

/-- No member goes on where the members are closed. -/
theorem Closes.ne_separator {r : List Char} (h : Closes r) (rest : List Char) :
    r ≠ ',' :: ' ' :: rest := by
  rintro rfl
  cases h with
  | bracket h => simp at h

/-- No datum begins with what closes a container. -/
theorem Closes.ne_text_append {r : List Char} (h : Closes r) (d : Datum) (rest : List Char) :
    r ≠ d.text ++ rest := by
  have hhead : ∃ c more, d.text = c :: more ∧ ¬ Closes (c :: more ++ rest) := by
    cases hd : d.opening with
    | none =>
      obtain ⟨c, more, htext, hc⟩ := exists_scalar_text hd
      refine ⟨c, more, htext, fun hcloses ↦ ?_⟩
      have hout := hcloses.startsOutside c (more ++ rest) rfl
      simp [hc] at hout
    | some c =>
      obtain ⟨more, htext⟩ := exists_text_eq_opening hd
      refine ⟨c, more, htext, ?_⟩
      cases d <;> cases hd <;> rintro ⟨h⟩ <;> simp at h
  obtain ⟨c, more, htext, hcloses⟩ := hhead
  rintro rfl
  exact hcloses (htext ▸ h)

/-- A tuple of one member is closed by a comma and a parenthesis, every other one by the parenthesis. -/
theorem closes_tupleClosing (ds : List Datum) (r : List Char) : Closes (tupleClosing ds ++ r) := by
  unfold tupleClosing
  split
  · exact .comma r
  · exact .bracket (.inr (.inl rfl)) r

/-- What follows a member does not go on as a word or a number. -/
theorem startsOutside_moreText (ds : List Datum) {r : List Char} (hr : Closes r) :
    StartsOutside isScalarChar (moreText ds ++ r) := by
  cases ds with
  | nil => exact hr.startsOutside
  | cons d ds => exact .cons rfl

theorem startsOutside_moreEntriesText (es : List (Datum × Datum)) {r : List Char} (hr : Closes r) :
    StartsOutside isScalarChar (moreEntriesText es ++ r) := by
  cases es with
  | nil => exact hr.startsOutside
  | cons e es => exact .cons rfl

mutual

/-- The text of a datum and what follows it are told apart in one way only. -/
theorem text_append_inj {r s : List Char} (hr : StartsOutside isScalarChar r)
    (hs : StartsOutside isScalarChar s) :
    ∀ {d e : Datum}, d.text ++ r = e.text ++ s → d = e ∧ r = s
  | none, _, h | bool _, _, h | int _, _, h | float .., _, h => scalar_append_inj rfl hr hs h
  | string cs, e, h => by
    have hopening := opening_eq_of_append_eq h
    cases e with
    | string ds =>
      obtain ⟨rfl, hrest⟩ := Text.Quoted.encode_append_inj h
      exact ⟨rfl, hrest⟩
    | none | bool | int | float | list | tuple | mapping => cases hopening
  | list ms, e, h => by
    have hopening := opening_eq_of_append_eq h
    cases e with
    | list ms' =>
      simp only [text, List.cons_append, List.append_assoc, List.cons.injEq, true_and] at h
      obtain ⟨rfl, hrest⟩ := membersText_append_inj (.bracket (.inl rfl) r) (.bracket (.inl rfl) s) h
      exact ⟨rfl, (List.cons.inj hrest).2⟩
    | none | bool | int | float | string | tuple | mapping => cases hopening
  | tuple ms, e, h => by
    have hopening := opening_eq_of_append_eq h
    cases e with
    | tuple ms' =>
      simp only [text, List.cons_append, List.append_assoc, List.cons.injEq, true_and] at h
      obtain ⟨rfl, hrest⟩ :=
        membersText_append_inj (closes_tupleClosing ms r) (closes_tupleClosing ms' s) h
      exact ⟨rfl, List.append_cancel_left hrest⟩
    | none | bool | int | float | string | list | mapping => cases hopening
  | mapping es, e, h => by
    have hopening := opening_eq_of_append_eq h
    cases e with
    | mapping es' =>
      simp only [text, List.cons_append, List.append_assoc, List.cons.injEq, true_and] at h
      obtain ⟨rfl, hrest⟩ :=
        entriesText_append_inj (.bracket (.inr (.inr rfl)) r) (.bracket (.inr (.inr rfl)) s) h
      exact ⟨rfl, (List.cons.inj hrest).2⟩
    | none | bool | int | float | string | list | tuple => cases hopening

/-- Members without their brackets, in front of what closes them: neither list can end before the other. -/
theorem membersText_append_inj {r s : List Char} (hr : Closes r) (hs : Closes s) :
    ∀ {ds es : List Datum}, membersText ds ++ r = membersText es ++ s → ds = es ∧ r = s
  | [], [], h => ⟨rfl, h⟩
  | [], e :: es, h => by
    rw [membersText, membersText, List.append_assoc] at h
    exact absurd h (hr.ne_text_append e _)
  | d :: ds, [], h => by
    rw [membersText, membersText, List.append_assoc] at h
    exact absurd h.symm (hs.ne_text_append d _)
  | d :: ds, e :: es, h => by
    rw [membersText, membersText, List.append_assoc, List.append_assoc] at h
    obtain ⟨rfl, hmore⟩ :=
      text_append_inj (startsOutside_moreText ds hr) (startsOutside_moreText es hs) h
    obtain ⟨rfl, hrest⟩ := moreText_append_inj hr hs hmore
    exact ⟨rfl, hrest⟩

theorem moreText_append_inj {r s : List Char} (hr : Closes r) (hs : Closes s) :
    ∀ {ds es : List Datum}, moreText ds ++ r = moreText es ++ s → ds = es ∧ r = s
  | [], [], h => ⟨rfl, h⟩
  | [], e :: es, h => absurd h (hr.ne_separator _)
  | d :: ds, [], h => absurd h.symm (hs.ne_separator _)
  | d :: ds, e :: es, h => by
    simp only [moreText, List.cons_append, List.append_assoc, List.cons.injEq, true_and] at h
    obtain ⟨rfl, hmore⟩ :=
      text_append_inj (startsOutside_moreText ds hr) (startsOutside_moreText es hs) h
    obtain ⟨rfl, hrest⟩ := moreText_append_inj hr hs hmore
    exact ⟨rfl, hrest⟩

theorem entriesText_append_inj {r s : List Char} (hr : Closes r) (hs : Closes s) :
    ∀ {ds es : List (Datum × Datum)}, entriesText ds ++ r = entriesText es ++ s → ds = es ∧ r = s
  | [], [], h => ⟨rfl, h⟩
  | [], (k, v) :: es, h => by
    simp only [entriesText, List.nil_append, List.append_assoc] at h
    exact absurd h (hr.ne_text_append k _)
  | (k, v) :: ds, [], h => by
    simp only [entriesText, List.nil_append, List.append_assoc] at h
    exact absurd h.symm (hs.ne_text_append k _)
  | (k, v) :: ds, (k', v') :: es, h => by
    simp only [entriesText, List.cons_append, List.append_assoc] at h
    obtain ⟨rfl, hvalue⟩ := text_append_inj (.cons rfl) (.cons rfl) h
    simp only [List.cons.injEq, true_and] at hvalue
    obtain ⟨rfl, hmore⟩ :=
      text_append_inj (startsOutside_moreEntriesText ds hr) (startsOutside_moreEntriesText es hs)
        hvalue
    obtain ⟨rfl, hrest⟩ := moreEntriesText_append_inj hr hs hmore
    exact ⟨rfl, hrest⟩

/-- Entries are read like members; a key ends at its colon. -/
theorem moreEntriesText_append_inj {r s : List Char} (hr : Closes r) (hs : Closes s) :
    ∀ {ds es : List (Datum × Datum)},
      moreEntriesText ds ++ r = moreEntriesText es ++ s → ds = es ∧ r = s
  | [], [], h => ⟨rfl, h⟩
  | [], (k, v) :: es, h => absurd h (hr.ne_separator _)
  | (k, v) :: ds, [], h => absurd h.symm (hs.ne_separator _)
  | (k, v) :: ds, (k', v') :: es, h => by
    simp only [moreEntriesText, List.cons_append, List.append_assoc, List.cons.injEq, true_and] at h
    obtain ⟨rfl, hvalue⟩ := text_append_inj (.cons rfl) (.cons rfl) h
    simp only [List.cons.injEq, true_and] at hvalue
    obtain ⟨rfl, hmore⟩ :=
      text_append_inj (startsOutside_moreEntriesText ds hr) (startsOutside_moreEntriesText es hs)
        hvalue
    obtain ⟨rfl, hrest⟩ := moreEntriesText_append_inj hr hs hmore
    exact ⟨rfl, hrest⟩

end

end StarlarkMacro.Datum
