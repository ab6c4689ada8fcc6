import StarlarkMacro.Double
import StarlarkMacro.Proofs.Text.Word
import Mathlib.Algebra.Order.Field.Rat
import Mathlib.Algebra.GroupWithZero.Units.Basic
import Mathlib.Tactic.FieldSimp
import Mathlib.Tactic.Ring

/-!
# Numerals

The texts of finite numbers: digits, perhaps a point and further digits, perhaps an exponent, and at least
one of the two. A numeral is determined by its text, and so is the decimal that it stands for.
-/

namespace StarlarkMacro.Decimal

open Double

structure Numeral where
  whole : List Char
  fraction : List Char
  exponent : Option Int
  whole_ne_nil : whole ≠ []
  isDigit_of_mem_whole : ∀ c ∈ whole, c.isDigit = true
  isDigit_of_mem_fraction : ∀ c ∈ fraction, c.isDigit = true
  /-- What sets a numeral apart from the text of an integer. -/
  fraction_ne_nil : exponent = none → fraction ≠ []

namespace Numeral

def fractionText (n : Numeral) : List Char := if n.fraction = [] then [] else '.' :: n.fraction

def tailText (n : Numeral) : List Char := n.fractionText ++ n.exponent.elim [] exponentText

def text (n : Numeral) : List Char := n.whole ++ n.tailText

/-- The decimal that a numeral stands for. -/
def value (n : Numeral) : ℚ :=
  Nat.ofDigitChars 10 (n.whole ++ n.fraction) 0 *
    (10 : ℚ) ^ (n.exponent.getD 0 - (n.fraction.length : ℤ))

theorem isDigit_of_mem_exponentDigits {e : Int} {c : Char}
    (h : c ∈ zeros (2 - (Nat.toDigits 10 e.natAbs).length) ++ Nat.toDigits 10 e.natAbs) :
    c.isDigit = true := by
  rcases List.mem_append.1 h with hzero | hdigit
  · obtain rfl := List.eq_of_mem_replicate hzero
    decide
  · exact Nat.isDigit_of_mem_toDigits (by decide) (by decide) hdigit

/-- The digits of an exponent are padded to two, and still read as one number. -/
theorem exponentText_injective {d e : Int} (h : exponentText d = exponentText e) : d = e := by
  simp only [exponentText, List.cons_append, List.cons.injEq, true_and] at h
  obtain ⟨hsign, hdigits⟩ := h
  have habs := congrArg (Nat.ofDigitChars 10 · 0) hdigits
  simp only [zeros, Nat.ofDigitChars_append, Nat.ofDigitChars_replicate_zero, Nat.mul_zero,
    Nat.ofDigitChars_ten_toDigits] at habs
  by_cases hd : d < 0 <;> by_cases he : e < 0 <;> simp [hd, he] at hsign <;> omega

theorem startsOutside_exponent (e : Option Int) :
    Text.StartsOutside Char.isDigit (e.elim [] exponentText) := by
  cases e with
  | none => exact .nil
  | some e => exact .cons (by decide)

theorem startsOutside_tailText (n : Numeral) : Text.StartsOutside Char.isDigit n.tailText := by
  unfold tailText fractionText
  split
  · exact startsOutside_exponent n.exponent
  · exact .cons (by decide)

theorem exponent_injective {d e : Option Int}
    (h : d.elim [] exponentText = e.elim [] exponentText) : d = e := by
  cases d with
  | none =>
    cases e with
    | none => rfl
    | some e => simp [exponentText] at h
  | some d =>
    cases e with
    | none => simp [exponentText] at h
    | some e => rw [exponentText_injective h]

/-- What stands behind the whole part says whether there is a point. -/
theorem tailText_ne {m n : Numeral} (hm : m.fraction = []) (hn : n.fraction ≠ []) :
    m.tailText ≠ n.tailText := by
  have hexponent : m.exponent ≠ none := fun h ↦ m.fraction_ne_nil h hm
  obtain ⟨e, he⟩ := Option.ne_none_iff_exists'.1 hexponent
  simp [tailText, fractionText, hm, hn, he, exponentText]

/-- A point or an exponent sets a numeral apart from the text of an integer. -/
theorem exists_tailText_eq_cons (n : Numeral) :
    ∃ c rest, n.tailText = c :: rest ∧ (c = '.' ∨ c = 'e') := by
  by_cases hfraction : n.fraction = []
  · obtain ⟨e, he⟩ := Option.ne_none_iff_exists'.1 fun h ↦ n.fraction_ne_nil h hfraction
    exact ⟨'e', _, by rw [tailText, fractionText, if_pos hfraction, he]; rfl, .inr rfl⟩
  · exact ⟨'.', _, by rw [tailText, fractionText, if_neg hfraction]; rfl, .inl rfl⟩

theorem of_mem_text (n : Numeral) {c : Char} (h : c ∈ n.text) :
    c.isDigit = true ∨ c = '.' ∨ c = 'e' ∨ c = '-' ∨ c = '+' := by
  rcases List.mem_append.1 h with hwhole | htail
  · exact .inl (n.isDigit_of_mem_whole c hwhole)
  · rcases List.mem_append.1 htail with hfraction | hexponent
    · unfold fractionText at hfraction
      split at hfraction
      · cases hfraction
      · rcases List.mem_cons.1 hfraction with rfl | hdigit
        · exact .inr (.inl rfl)
        · exact .inl (n.isDigit_of_mem_fraction c hdigit)
    · cases he : n.exponent with
      | none => simp [he] at hexponent
      | some e =>
        rw [he, Option.elim_some, exponentText, List.cons_append] at hexponent
        rcases List.mem_cons.1 hexponent with rfl | hrest
        · exact .inr (.inr (.inl rfl))
        · rcases List.mem_cons.1 hrest with rfl | hdigit
          · split
            · exact .inr (.inr (.inr (.inl rfl)))
            · exact .inr (.inr (.inr (.inr rfl)))
          · exact .inl (isDigit_of_mem_exponentDigits hdigit)

theorem tailText_injective {m n : Numeral} (h : m.tailText = n.tailText) :
    m.fraction = n.fraction ∧ m.exponent = n.exponent := by
  by_cases hm : m.fraction = [] <;> by_cases hn : n.fraction = []
  · simp only [tailText, fractionText, hm, hn, if_true, List.nil_append] at h
    exact ⟨hm.trans hn.symm, exponent_injective h⟩
  · exact absurd h (tailText_ne hm hn)
  · exact absurd h.symm (tailText_ne hn hm)
  · simp only [tailText, fractionText, hm, hn, if_false, List.cons_append, List.cons.injEq,
      true_and] at h
    obtain ⟨hfraction, hexponent⟩ :=
      Text.word_append_inj m.isDigit_of_mem_fraction (startsOutside_exponent m.exponent)
        n.isDigit_of_mem_fraction (startsOutside_exponent n.exponent) h
    exact ⟨hfraction, exponent_injective hexponent⟩

/-- Where the digits end a point, an exponent or nothing follows, so every part is read back. -/
theorem text_injective {m n : Numeral} (h : m.text = n.text) : m = n := by
  obtain ⟨hwhole, htail⟩ :=
    Text.word_append_inj m.isDigit_of_mem_whole (startsOutside_tailText m)
      n.isDigit_of_mem_whole (startsOutside_tailText n) h
  obtain ⟨hfraction, hexponent⟩ := tailText_injective htail
  cases m
  cases n
  simp_all

/-! ## The two forms of a decimal -/

theorem isDigit_of_mem_zeros {k : Nat} {c : Char} (h : c ∈ zeros k) : c.isDigit = true := by
  obtain rfl := List.eq_of_mem_replicate h
  decide

@[simp] theorem length_zeros (k : Nat) : (zeros k).length = k := List.length_replicate

section Forms

variable {digits : List Char}

/-- The number that digits stand for does not change with zeros in front of them. -/
theorem ofDigitChars_zeros_append (k : Nat) :
    Nat.ofDigitChars 10 (zeros k ++ digits) 0 = Nat.ofDigitChars 10 digits 0 := by
  simp [zeros, Nat.ofDigitChars_append]

/-- A zero at the end counts ten times as much. -/
theorem ofDigitChars_append_zeros (k : Nat) :
    Nat.ofDigitChars 10 (digits ++ zeros k) 0 = 10 ^ k * Nat.ofDigitChars 10 digits 0 := by
  simp [zeros, Nat.ofDigitChars_append]

theorem exists_positional_of_nonpos (hne : digits ≠ [])
    (hdigits : ∀ c ∈ digits, c.isDigit = true) {point : Int} (hpoint : point ≤ 0) :
    ∃ n : Numeral, '0' :: '.' :: zeros (-point).toNat ++ digits = n.text ∧
      n.value = Nat.ofDigitChars 10 digits 0 * (10 : ℚ) ^ (point - digits.length) := by
  refine ⟨⟨['0'], zeros (-point).toNat ++ digits, none, by simp, List.forall_mem_singleton.2 rfl,
    ?_, by simp [hne]⟩,
    by simp [text, tailText, fractionText, hne], ?_⟩
  · intro c hc
    exact (List.mem_append.1 hc).elim isDigit_of_mem_zeros (hdigits c)
  · have hzeros : ['0'] ++ (zeros (-point).toNat ++ digits) =
        zeros ((-point).toNat + 1) ++ digits := by
      simp [zeros, List.replicate_succ]
    have hexponent : (0 : ℤ) - (zeros (-point).toNat ++ digits).length = point - digits.length := by
      simp only [List.length_append, length_zeros]
      omega
    simp only [value, Option.getD_none, hzeros, ofDigitChars_zeros_append, hexponent]

theorem exists_positional_of_length_le (hne : digits ≠ [])
    (hdigits : ∀ c ∈ digits, c.isDigit = true) {point : Int}
    (hpoint : digits.length ≤ point.toNat) :
    ∃ n : Numeral, digits ++ zeros (point.toNat - digits.length) ++ ['.', '0'] = n.text ∧
      n.value = Nat.ofDigitChars 10 digits 0 * (10 : ℚ) ^ (point - digits.length) := by
  refine ⟨⟨digits ++ zeros (point.toNat - digits.length), ['0'], none, by simp [hne], ?_,
    List.forall_mem_singleton.2 rfl, by simp⟩, by simp [text, tailText, fractionText], ?_⟩
  · intro c hc
    exact (List.mem_append.1 hc).elim (hdigits c) isDigit_of_mem_zeros
  · have hlength : 0 < digits.length := List.length_pos_of_ne_nil hne
    obtain ⟨k, hk⟩ : ∃ k : Nat, point = digits.length + k :=
      ⟨point.toNat - digits.length, by omega⟩
    have hzeros : digits ++ zeros (point.toNat - digits.length) ++ ['0'] = digits ++ zeros (k + 1) := by
      have hsub : point.toNat - digits.length = k := by omega
      simp [hsub, zeros, List.replicate_succ']
    simp only [value, Option.getD_none, hzeros, ofDigitChars_append_zeros, List.length_singleton]
    rw [hk, add_sub_cancel_left]
    push_cast
    rw [pow_succ, zpow_natCast]
    norm_num
    ring

theorem exists_positional_of_lt_length (hdigits : ∀ c ∈ digits, c.isDigit = true) {point : Int}
    (hpositive : 0 < point) (hpoint : point.toNat < digits.length) :
    ∃ n : Numeral, digits.take point.toNat ++ '.' :: digits.drop point.toNat = n.text ∧
      n.value = Nat.ofDigitChars 10 digits 0 * (10 : ℚ) ^ (point - digits.length) := by
  have hne : digits.drop point.toNat ≠ [] := by simp; omega
  refine ⟨⟨digits.take point.toNat, digits.drop point.toNat, none, ?_, ?_, ?_, fun _ ↦ hne⟩,
    by simp [text, tailText, fractionText, hne], ?_⟩
  · rw [Ne, List.take_eq_nil_iff, not_or]
    exact ⟨by omega, fun h ↦ by simp [h] at hpoint⟩
  · exact fun c hc ↦ hdigits c (List.mem_of_mem_take hc)
  · exact fun c hc ↦ hdigits c (List.mem_of_mem_drop hc)
  · have hexponent : (0 : ℤ) - (digits.drop point.toNat).length = point - digits.length := by
      simp only [List.length_drop]
      omega
    simp only [value, Option.getD_none, List.take_append_drop, hexponent]

/-- With the point behind the first `point` of its digits a decimal has a numeral. -/
theorem exists_positional (hne : digits ≠ []) (hdigits : ∀ c ∈ digits, c.isDigit = true)
    (point : Int) :
    ∃ n : Numeral, positional digits point = n.text ∧
      n.value = Nat.ofDigitChars 10 digits 0 * (10 : ℚ) ^ (point - digits.length) := by
  unfold positional
  split
  · exact exists_positional_of_nonpos hne hdigits ‹_›
  · split
    · exact exists_positional_of_length_le hne hdigits ‹_›
    · exact exists_positional_of_lt_length hdigits (by omega) (by omega)

/-- With the point behind its first digit and an exponent a decimal has a numeral. -/
theorem exists_scientific (hne : digits ≠ []) (hdigits : ∀ c ∈ digits, c.isDigit = true)
    (e : Int) :
    ∃ n : Numeral, scientific digits e = n.text ∧
      n.value = Nat.ofDigitChars 10 digits 0 * (10 : ℚ) ^ (e + 1 - digits.length) := by
  have hlength : 0 < digits.length := List.length_pos_of_ne_nil hne
  refine ⟨⟨digits.take 1, digits.drop 1, some e, by simp [hne], ?_, ?_, by simp⟩, ?_, ?_⟩
  · exact fun c hc ↦ hdigits c (List.mem_of_mem_take hc)
  · exact fun c hc ↦ hdigits c (List.mem_of_mem_drop hc)
  · simp only [scientific, text, tailText, fractionText, List.drop_eq_nil_iff, List.append_assoc,
      Option.elim_some]
  · have hexponent : e - ((digits.drop 1).length : ℤ) = e + 1 - digits.length := by
      simp only [List.length_drop]
      omega
    simp only [value, Option.getD_some, List.take_append_drop, hexponent]

end Forms

end Numeral

end StarlarkMacro.Decimal
