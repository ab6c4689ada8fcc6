import StarlarkMacro.Proofs.Decimal.Interval
import StarlarkMacro.Proofs.Decimal.Numeral
import Mathlib.Data.List.TakeWhile
import Mathlib.Tactic.NormNum

/-!
# The text of a finite number determines its bits

The intervals of numbers of different sizes have no decimal in common, so the numeral of a size is the
numeral of one size only; the sign in front of it is the rest of the bits.
-/

namespace StarlarkMacro.Double

open Decimal (Interval Numeral Scaled)
open Decimal.Interval (Before Holds)

variable {x y : Double}

/-! ## The fields of the bits -/

theorem fraction_eq_mod (x : Double) : x.fraction = x.bits.toNat % 2 ^ 52 := by
  simp only [fraction, UInt64.toNat_and]
  exact Nat.and_two_pow_sub_one_eq_mod _ 52

theorem exponentField_eq_mod (x : Double) : x.exponentField = x.bits.toNat / 2 ^ 52 % 2 ^ 11 := by
  simp only [exponentField, UInt64.toNat_and, UInt64.toNat_shiftRight]
  rw [← Nat.shiftRight_eq_div_pow]
  exact Nat.and_two_pow_sub_one_eq_mod _ 11

theorem isNegative_iff (x : Double) : x.isNegative = true ↔ x.bits.toNat / 2 ^ 63 = 1 := by
  simp only [isNegative, decide_eq_true_eq, ← UInt64.toNat_inj, UInt64.toNat_shiftRight]
  rw [← Nat.shiftRight_eq_div_pow]
  rfl

theorem fraction_lt (x : Double) : x.fraction < 2 ^ 52 := by
  rw [fraction_eq_mod]
  exact Nat.mod_lt _ (by decide)

/-- A double is its sign, its exponent field and its fraction. -/
theorem ext_fields (hsign : x.isNegative = y.isNegative)
    (hexponent : x.exponentField = y.exponentField) (hfraction : x.fraction = y.fraction) :
    x = y := by
  obtain ⟨a⟩ := x
  obtain ⟨b⟩ := y
  rw [Bool.eq_iff_iff, isNegative_iff, isNegative_iff] at hsign
  rw [exponentField_eq_mod, exponentField_eq_mod] at hexponent
  rw [fraction_eq_mod, fraction_eq_mod] at hfraction
  have ha : a.toNat < 2 ^ 64 := a.toNat_lt
  have hb : b.toNat < 2 ^ 64 := b.toNat_lt
  rw [mk.injEq, ← UInt64.toNat_inj]
  dsimp only at hsign hexponent hfraction
  omega

theorem significand_lt (x : Double) : x.significand < 2 ^ 53 := by
  have hfraction := x.fraction_lt
  unfold significand
  rw [Nat.pow_eq]
  split <;> omega

theorem neg_1074_le_exponent (x : Double) : -1074 ≤ x.exponent := by
  unfold exponent
  split <;> omega

/-- Above the least exponent every significand is normal. -/
theorem two_pow_le_significand (h : -1074 < x.exponent) : 2 ^ 52 ≤ x.significand := by
  unfold exponent at h
  unfold significand
  split at h
  · omega
  · rw [if_neg ‹_›]
    exact Nat.le_add_right _ _

/-- Significand and exponent determine both fields: the leading bit of the significand tells whether the
number is subnormal. -/
theorem fields_eq_of_size_eq (hsignificand : x.significand = y.significand)
    (hexponent : x.exponent = y.exponent) :
    x.exponentField = y.exponentField ∧ x.fraction = y.fraction := by
  have hx := x.fraction_lt
  have hy := y.fraction_lt
  unfold significand at hsignificand
  unfold exponent at hexponent
  split at hsignificand <;> split at hsignificand <;> simp_all
  all_goals omega

/-! ## The interval of a size -/

/-- A quarter of the distance to the next larger size. -/
def quarter (x : Double) : ℚ := 2 ^ (x.exponent - 2)

/-- How many quarters the interval reaches below its centre. -/
def reach (x : Double) : Nat := if x.fraction = 0 ∧ 1 < x.exponentField then 1 else 2

theorem quarter_pos (x : Double) : 0 < x.quarter := zpow_pos (by norm_num) _

theorem scale_pos (x : Double) : 0 < x.interval.scale := Nat.two_pow_pos _

theorem mul_quarter (x : Double) (k : Nat) :
    ((k * 2 ^ (x.exponent - 2).toNat : Nat) : ℚ) / x.interval.scale = k * x.quarter := by
  have hneg : -(x.exponent - 2) = 2 - x.exponent := by omega
  rw [quarter, Decimal.Interval.zpow_eq_div_pow, hneg]
  simp only [interval, Nat.pow_eq]
  push_cast
  ring

/-- The lower bound of the interval, in quarters of the last place. -/
theorem lower_div_scale (x : Double) :
    (x.interval.lower : ℚ) / x.interval.scale = ((4 * x.significand - x.reach : Nat) : ℚ) * x.quarter := by
  rw [← mul_quarter]
  simp only [interval, reach]
  split <;> rfl

theorem upper_div_scale (x : Double) :
    (x.interval.upper : ℚ) / x.interval.scale = ((4 * x.significand + 2 : Nat) : ℚ) * x.quarter := by
  rw [← mul_quarter]
  rfl

theorem closed_iff (x : Double) : x.interval.closed = true ↔ x.significand % 2 = 0 := by
  simp [interval]

theorem reach_le (x : Double) : x.reach ≤ 2 := by
  unfold reach
  split <;> omega

theorem reach_pos (x : Double) : 0 < x.reach := by
  unfold reach
  split <;> omega

theorem exact_value (x : Double) : x.exact.value = (x.significand : ℚ) * 2 ^ x.exponent := by
  unfold exact Scaled.value
  split
  · obtain ⟨n, hn⟩ := Int.eq_ofNat_of_zero_le ‹0 ≤ x.exponent›
    simp [hn]
  · obtain ⟨n, hn⟩ := Int.eq_ofNat_of_zero_le (show 0 ≤ -x.exponent by omega)
    obtain hx : x.exponent = -n := by omega
    have hten : (10 : ℚ) ^ n = 5 ^ n * 2 ^ n := by rw [← mul_pow]; norm_num
    simp only [hx, neg_neg, Int.toNat_natCast, Nat.pow_eq, Nat.cast_mul, Nat.cast_pow,
      Nat.cast_ofNat, zpow_neg, zpow_natCast, hten]
    field_simp

/-- Four quarters make the last place. -/
theorem four_mul_quarter (x : Double) : 4 * x.quarter = 2 ^ x.exponent := by
  rw [quarter, zpow_sub₀ (by norm_num)]
  norm_num
  ring

theorem lower_pos (hx : x.significand ≠ 0) : 0 < (x.interval.lower : ℚ) / x.interval.scale := by
  have hreach := x.reach_le
  have hquarters : 0 < 4 * x.significand - x.reach := by omega
  rw [lower_div_scale]
  exact mul_pos (by exact_mod_cast hquarters) x.quarter_pos

/-- A double lies in its own interval, which is why the search finds something. -/
theorem holds_exact (hx : x.significand ≠ 0) : x.interval.Holds x.exact.value := by
  have hquarter := x.quarter_pos
  have hcentre : x.exact.value = ((4 * x.significand : Nat) : ℚ) * x.quarter := by
    rw [exact_value, ← four_mul_quarter]
    push_cast
    ring
  have hlower : (x.interval.lower : ℚ) / x.interval.scale < x.exact.value := by
    rw [lower_div_scale, hcentre]
    have hreach := x.reach_pos
    have hlt : 4 * x.significand - x.reach < 4 * x.significand := by omega
    exact mul_lt_mul_of_pos_right (by exact_mod_cast hlt) hquarter
  have hupper : x.exact.value < (x.interval.upper : ℚ) / x.interval.scale := by
    rw [upper_div_scale, hcentre]
    exact mul_lt_mul_of_pos_right (by exact_mod_cast Nat.lt_add_of_pos_right (by decide)) hquarter
  unfold Holds
  split
  · exact ⟨hlower.le, hupper.le⟩
  · exact ⟨hlower, hupper⟩

/-- Of two numbers with one exponent the one with the smaller significand comes first. -/
theorem before_of_significand_lt (hexponent : x.exponent = y.exponent)
    (hsignificand : x.significand < y.significand) : Before x.interval y.interval := by
  have hquarter : x.quarter = y.quarter := by rw [quarter, quarter, hexponent]
  have hreach := y.reach_le
  rw [Before, upper_div_scale, lower_div_scale, hquarter, closed_iff, closed_iff]
  constructor
  · have hle : 4 * x.significand + 2 ≤ 4 * y.significand - y.reach := by omega
    exact mul_le_mul_of_nonneg_right (by exact_mod_cast hle) y.quarter_pos.le
  · intro hx hy
    have hlt : 4 * x.significand + 2 < 4 * y.significand - y.reach := by omega
    exact mul_lt_mul_of_pos_right (by exact_mod_cast hlt) y.quarter_pos

/-- One exponent up, the last place counts twice as much. -/
theorem two_mul_quarter_le (hexponent : x.exponent < y.exponent) : 2 * x.quarter ≤ y.quarter := by
  have hstep : 2 * x.quarter = 2 ^ (x.exponent - 2 + 1) := by
    rw [zpow_add_one₀ (by norm_num), quarter, mul_comm]
  rw [hstep, quarter]
  exact zpow_le_zpow_right₀ (by norm_num) (by omega)

/-- A power of two reaches only one quarter down, other sizes start further above it. -/
theorem lower_quarters_ge (h : -1074 < x.exponent) : 2 ^ 54 - 1 ≤ 4 * x.significand - x.reach := by
  have hnormal := two_pow_le_significand h
  unfold exponent at h
  unfold significand reach at *
  rw [Nat.pow_eq] at *
  split at h
  · omega
  · rename_i hfield
    simp only [if_neg hfield] at *
    by_cases hfraction : x.fraction = 0
    · have hwide : 1 < x.exponentField := by omega
      simp [hfraction, hwide]
    · simp only [hfraction, false_and, if_false]
      omega

/-- Of two numbers with different exponents the one with the smaller exponent comes first. -/
theorem before_of_exponent_lt (hexponent : x.exponent < y.exponent) :
    Before x.interval y.interval := by
  have hleast : -1074 < y.exponent := x.neg_1074_le_exponent.trans_lt hexponent
  have hlower : ((2 ^ 55 - 2 : Nat) : ℚ) * x.quarter ≤
      ((4 * y.significand - y.reach : Nat) : ℚ) * y.quarter := by
    calc ((2 ^ 55 - 2 : Nat) : ℚ) * x.quarter
        = ((2 ^ 54 - 1 : Nat) : ℚ) * (2 * x.quarter) := by norm_num; ring
      _ ≤ ((2 ^ 54 - 1 : Nat) : ℚ) * y.quarter :=
        mul_le_mul_of_nonneg_left (two_mul_quarter_le hexponent) (Nat.cast_nonneg _)
      _ ≤ ((4 * y.significand - y.reach : Nat) : ℚ) * y.quarter :=
        mul_le_mul_of_nonneg_right (by exact_mod_cast lower_quarters_ge hleast) y.quarter_pos.le
  have hx := x.significand_lt
  rw [Before, upper_div_scale, lower_div_scale, closed_iff, closed_iff]
  constructor
  · refine le_trans (mul_le_mul_of_nonneg_right ?_ x.quarter_pos.le) hlower
    exact_mod_cast (show 4 * x.significand + 2 ≤ 2 ^ 55 - 2 by omega)
  · intro heven _
    refine lt_of_lt_of_le (mul_lt_mul_of_pos_right ?_ x.quarter_pos) hlower
    exact_mod_cast (show 4 * x.significand + 2 < 2 ^ 55 - 2 by omega)

/-- A decimal that lies in the intervals of two numbers tells that they have one size. -/
theorem size_eq_of_holds {q : ℚ} (hx : x.interval.Holds q) (hy : y.interval.Holds q) :
    x.significand = y.significand ∧ x.exponent = y.exponent := by
  rcases lt_trichotomy x.exponent y.exponent with hlt | heq | hgt
  · exact absurd hy ((before_of_exponent_lt hlt).not_holds hx)
  · rcases lt_trichotomy x.significand y.significand with hlt | hsame | hgt
    · exact absurd hy ((before_of_significand_lt heq hlt).not_holds hx)
    · exact ⟨hsame, heq⟩
    · exact absurd hx ((before_of_significand_lt heq.symm hgt).not_holds hy)
  · exact absurd hx ((before_of_exponent_lt hgt).not_holds hy)

/-! ## The numeral of a size -/

theorem coefficient_shortest_ne_zero (hx : x.significand ≠ 0) :
    (x.interval.shortest x.exact).coefficient ≠ 0 := by
  intro hzero
  have hlower := (Decimal.Interval.holds_shortest x.scale_pos (holds_exact hx)).lower_le
  rw [Scaled.value, hzero, Nat.cast_zero, zero_mul] at hlower
  exact absurd ((lower_pos hx).trans_le hlower) (lt_irrefl _)

/-- Zeros are all that is dropped. -/
theorem exists_eq_dropTrailingZeros_append (digits : List Char) :
    ∃ k, digits = dropTrailingZeros digits ++ zeros k := by
  obtain ⟨k, hk⟩ : ∃ k, digits.reverse.takeWhile (· = '0') = zeros k :=
    ⟨_, List.eq_replicate_of_mem fun c hc ↦ by simpa using List.mem_takeWhile_imp hc⟩
  refine ⟨k, ?_⟩
  have hsplit := congrArg List.reverse
    (List.takeWhile_append_dropWhile (p := (· = '0')) (l := digits.reverse))
  rw [List.reverse_append, List.reverse_reverse, hk] at hsplit
  simpa [dropTrailingZeros, zeros] using hsplit.symm

/-- The digits of a positive number without the zeros at their end. -/
theorem dropTrailingZeros_toDigits {n : Nat} (hn : n ≠ 0) :
    dropTrailingZeros (Nat.toDigits 10 n) ≠ [] ∧
      (∀ c ∈ dropTrailingZeros (Nat.toDigits 10 n), c.isDigit = true) ∧
      (Nat.ofDigitChars 10 (dropTrailingZeros (Nat.toDigits 10 n)) 0 : ℚ) *
        10 ^ ((Nat.toDigits 10 n).length - (dropTrailingZeros (Nat.toDigits 10 n)).length : ℤ) = n := by
  obtain ⟨k, hk⟩ := exists_eq_dropTrailingZeros_append (Nat.toDigits 10 n)
  generalize hdigits : dropTrailingZeros (Nat.toDigits 10 n) = digits at hk ⊢
  have hvalue := Nat.ofDigitChars_ten_toDigits (n := n)
  rw [hk, Numeral.ofDigitChars_append_zeros] at hvalue
  refine ⟨?_, ?_, ?_⟩
  · rintro rfl
    simp at hvalue
    exact hn hvalue.symm
  · intro c hc
    exact Nat.isDigit_of_mem_toDigits (n := n) (by decide) (by decide)
      (hk ▸ List.mem_append_left _ hc)
  · rw [hk]
    simp only [List.length_append, Numeral.length_zeros, Nat.cast_add, add_sub_cancel_left,
      zpow_natCast]
    exact_mod_cast (Nat.mul_comm _ _).trans hvalue

/-- The text of a size is a numeral, and what it stands for lies in the interval of that size. -/
theorem exists_numeral (hx : x.significand ≠ 0) :
    ∃ n : Numeral, x.sizeText = n.text ∧ x.interval.Holds n.value := by
  have hholds := Decimal.Interval.holds_shortest x.scale_pos (holds_exact hx)
  have hcoefficient := coefficient_shortest_ne_zero hx
  simp only [sizeText, if_neg hx]
  generalize x.interval.shortest x.exact = d at *
  obtain ⟨hne, hdigits, hvalue⟩ := dropTrailingZeros_toDigits hcoefficient
  generalize hkept : dropTrailingZeros (Nat.toDigits 10 d.coefficient) = kept at *
  have hleading (e : ℤ) (he : e = d.exponent + (Nat.toDigits 10 d.coefficient).length) :
      (Nat.ofDigitChars 10 kept 0 : ℚ) * 10 ^ (e - kept.length) = d.value := by
    have hsplit : e - kept.length =
        ((Nat.toDigits 10 d.coefficient).length - kept.length : ℤ) + d.exponent := by omega
    rw [hsplit, zpow_add₀ (by norm_num), ← mul_assoc, hvalue, Scaled.value]
  split
  · obtain ⟨n, htext, hn⟩ := Numeral.exists_positional hne hdigits
      (d.exponent + (Nat.toDigits 10 d.coefficient).length - 1 + 1)
    refine ⟨n, htext, ?_⟩
    rwa [hn, hleading _ (by omega)]
  · obtain ⟨n, htext, hn⟩ := Numeral.exists_scientific hne hdigits
      (d.exponent + (Nat.toDigits 10 d.coefficient).length - 1)
    refine ⟨n, htext, ?_⟩
    rwa [hn, hleading _ (by omega)]

/-- The numeral of zero. -/
def zeroNumeral : Numeral where
  whole := ['0']
  fraction := ['0']
  exponent := none
  whole_ne_nil := by decide
  isDigit_of_mem_whole := List.forall_mem_singleton.2 rfl
  isDigit_of_mem_fraction := List.forall_mem_singleton.2 rfl
  fraction_ne_nil := by decide

theorem exists_numeral_sizeText (x : Double) : ∃ n : Numeral, x.sizeText = n.text := by
  by_cases hx : x.significand = 0
  · exact ⟨zeroNumeral, by simp only [sizeText, if_pos hx]; rfl⟩
  · obtain ⟨n, htext, -⟩ := exists_numeral hx
    exact ⟨n, htext⟩

theorem zeroNumeral_value : zeroNumeral.value = 0 := by
  norm_num [Numeral.value, zeroNumeral, Nat.ofDigitChars]

theorem significand_eq_zero_of_sizeText_eq (hx : x.significand = 0) (h : x.sizeText = y.sizeText) :
    y.significand = 0 := by
  by_contra hy
  obtain ⟨n, htext, hholds⟩ := exists_numeral hy
  have hzero : zeroNumeral.text = n.text := by
    rw [← htext, ← h, sizeText, if_pos hx]
    rfl
  obtain rfl := Numeral.text_injective hzero
  have hlower := hholds.lower_le
  rw [zeroNumeral_value] at hlower
  exact absurd ((lower_pos hy).trans_le hlower) (lt_irrefl _)

theorem exponent_of_significand_eq_zero (hx : x.significand = 0) : x.exponent = -1074 := by
  by_contra hne
  have hnormal := two_pow_le_significand (x.neg_1074_le_exponent.lt_of_ne' hne)
  omega

/-- Two doubles with one text lie in intervals with a common point, so they are equal up to the sign. -/
theorem size_eq_of_sizeText_eq (h : x.sizeText = y.sizeText) :
    x.significand = y.significand ∧ x.exponent = y.exponent := by
  by_cases hx : x.significand = 0
  · have hy := significand_eq_zero_of_sizeText_eq hx h
    rw [exponent_of_significand_eq_zero hx, exponent_of_significand_eq_zero hy]
    exact ⟨hx.trans hy.symm, rfl⟩
  · have hy : y.significand ≠ 0 := fun hy ↦ hx (significand_eq_zero_of_sizeText_eq hy h.symm)
    obtain ⟨m, hm, hxm⟩ := exists_numeral hx
    obtain ⟨n, hn, hyn⟩ := exists_numeral hy
    obtain rfl := Numeral.text_injective (hm.symm.trans (h.trans hn))
    exact size_eq_of_holds hxm hyn

/-! ## The sign -/

def signText (x : Double) : List Char := if x.isNegative then ['-'] else []

theorem text_of_isFinite (hx : x.isFinite = true) : x.text = x.signText ++ x.sizeText := by
  simp [text, isNaN, signText, hx]

/-- No numeral begins with a minus, so the sign is read first. -/
theorem signText_append_inj {m n : Numeral} (h : x.signText ++ m.text = y.signText ++ n.text) :
    x.isNegative = y.isNegative ∧ m = n := by
  have hminus (p : Numeral) (rest : List Char) : p.text ≠ '-' :: rest := by
    obtain ⟨c, whole, hwhole⟩ := List.exists_cons_of_ne_nil p.whole_ne_nil
    intro hp
    have hc : c.isDigit = true := p.isDigit_of_mem_whole c (by simp [hwhole])
    simp only [Numeral.text, hwhole, List.cons_append, List.cons.injEq] at hp
    simp [hp.1] at hc
  unfold signText at h
  cases hx : x.isNegative <;> cases hy : y.isNegative <;>
    simp only [hx, hy, Bool.false_eq_true, if_false, if_true, List.nil_append,
      List.singleton_append, List.cons.injEq, true_and] at h
  · exact ⟨rfl, Numeral.text_injective h⟩
  · exact absurd h (hminus m _)
  · exact absurd h.symm (hminus n _)
  · exact ⟨rfl, Numeral.text_injective h⟩

/-- Two finite numbers with one text are the same number, down to the sign of zero. -/
theorem text_injective (hx : x.isFinite = true) (hy : y.isFinite = true) (h : x.text = y.text) :
    x = y := by
  obtain ⟨m, hm⟩ := exists_numeral_sizeText x
  obtain ⟨n, hn⟩ := exists_numeral_sizeText y
  rw [text_of_isFinite hx, text_of_isFinite hy, hm, hn] at h
  obtain ⟨hsign, rfl⟩ := signText_append_inj h
  obtain ⟨hsignificand, hexponent⟩ := size_eq_of_sizeText_eq (hm.trans hn.symm)
  obtain ⟨hfield, hfraction⟩ := fields_eq_of_size_eq hsignificand hexponent
  exact ext_fields hsign hfield hfraction

end StarlarkMacro.Double
