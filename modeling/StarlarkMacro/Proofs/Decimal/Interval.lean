import StarlarkMacro.Decimal.Shortest
import Mathlib.Algebra.Order.Field.Rat
import Mathlib.Algebra.Order.Field.Basic
import Mathlib.Tactic.FieldSimp
import Mathlib.Tactic.Positivity
import Mathlib.Tactic.Ring

/-!
# Decimals inside an interval

The bounds of an interval are rationals, and the exact comparisons decide membership between them. The
search gives only points of the interval, so two intervals without a common point have different shortest
decimals.
-/

namespace StarlarkMacro.Decimal

def Scaled.value (d : Scaled) : ℚ := d.coefficient * (10 : ℚ) ^ d.exponent

namespace Interval

/-- Membership in an interval. -/
def Holds (i : Interval) (q : ℚ) : Prop :=
  if i.closed then (i.lower : ℚ) / i.scale ≤ q ∧ q ≤ (i.upper : ℚ) / i.scale
  else (i.lower : ℚ) / i.scale < q ∧ q < (i.upper : ℚ) / i.scale

theorem zpow_eq_div_pow (base : ℚ) (e : ℤ) : base ^ e = base ^ e.toNat / base ^ (-e).toNat := by
  rcases le_total 0 e with h | h
  · obtain ⟨n, rfl⟩ := Int.eq_ofNat_of_zero_le h
    simp
  · obtain ⟨n, hn⟩ := Int.eq_ofNat_of_zero_le (Int.neg_nonneg_of_nonpos h)
    obtain rfl : e = -n := by omega
    simp

variable {i j : Interval} {d : Scaled}

section Comparison

variable (hscale : 0 < i.scale) (bound : Nat)
include hscale

/-- A bound and a decimal are brought to one denominator, so the comparison is one of integers. -/
theorem le_value_iff : (bound : ℚ) / i.scale ≤ d.value ↔ (i.sides d bound).2 ≤ (i.sides d bound).1 := by
  have hscale' : (0 : ℚ) < i.scale := by exact_mod_cast hscale
  rw [Scaled.value, zpow_eq_div_pow, ← mul_div_assoc, div_le_div_iff₀ hscale' (by positivity)]
  simp only [sides]
  exact_mod_cast Iff.rfl

theorem value_le_iff : d.value ≤ (bound : ℚ) / i.scale ↔ (i.sides d bound).1 ≤ (i.sides d bound).2 := by
  have hscale' : (0 : ℚ) < i.scale := by exact_mod_cast hscale
  rw [Scaled.value, zpow_eq_div_pow, ← mul_div_assoc, div_le_div_iff₀ (by positivity) hscale']
  simp only [sides]
  exact_mod_cast Iff.rfl

/-- The test with integers decides whether a decimal lies in the interval. -/
theorem contains_iff_holds : i.contains d = true ↔ i.Holds d.value := by
  unfold contains Holds
  split
  · simp only [Bool.and_eq_true, decide_eq_true_eq, le_value_iff hscale, value_le_iff hscale]
  · simp only [Bool.and_eq_true, decide_eq_true_eq, ← not_le, le_value_iff hscale,
      value_le_iff hscale]

end Comparison

theorem contains_of_candidate? {exponent : Int} (h : i.candidate? exponent = some d) :
    i.contains d = true := by
  unfold candidate? at h
  grind

/-- The search returns only what the test has let through. -/
theorem contains_of_search {steps : Nat} {top : Int} (h : i.search steps top = some d) :
    i.contains d = true := by
  induction steps generalizing top with
  | zero => simp [search] at h
  | succ steps ih =>
    simp only [search] at h
    split at h
    · cases h
      exact contains_of_candidate? ‹_›
    · exact ih h

/-- The shortest decimal lies in an interval that holds its centre. -/
theorem holds_shortest (hscale : 0 < i.scale) {exact : Scaled} (hexact : i.Holds exact.value) :
    i.Holds (i.shortest exact).value := by
  simp only [shortest]
  cases hsearch : i.search (i.magnitude - 1 - exact.exponent).toNat (i.magnitude - 1) with
  | none => exact hexact
  | some d => exact (contains_iff_holds hscale).1 (contains_of_search hsearch)

theorem Holds.le_upper {q : ℚ} (h : i.Holds q) : q ≤ (i.upper : ℚ) / i.scale := by
  unfold Holds at h
  split at h
  · exact h.2
  · exact h.2.le

theorem Holds.lower_le {q : ℚ} (h : i.Holds q) : (i.lower : ℚ) / i.scale ≤ q := by
  unfold Holds at h
  split at h
  · exact h.1
  · exact h.1.le

/-- An interval lies before another one, and an end that they share is missing from one of them. -/
def Before (i j : Interval) : Prop :=
  (i.upper : ℚ) / i.scale ≤ (j.lower : ℚ) / j.scale ∧
    (i.closed = true → j.closed = true → (i.upper : ℚ) / i.scale < (j.lower : ℚ) / j.scale)

theorem Before.not_holds {q : ℚ} (h : Before i j) (hi : i.Holds q) : ¬ j.Holds q := by
  intro hj
  obtain ⟨hle, hlt⟩ := h
  have hupper := hi.le_upper
  have hlower := hj.lower_le
  have hmeet : (i.upper : ℚ) / i.scale = (j.lower : ℚ) / j.scale :=
    le_antisymm hle (hlower.trans hupper)
  cases hci : i.closed with
  | false =>
    simp only [Holds, hci, Bool.false_eq_true, if_false] at hi
    exact absurd (hi.2.trans_le (hmeet.le.trans hlower)) (lt_irrefl _)
  | true =>
    cases hcj : j.closed with
    | false =>
      simp only [Holds, hcj, Bool.false_eq_true, if_false] at hj
      exact absurd (hj.1.trans_le (hupper.trans hmeet.le)) (lt_irrefl _)
    | true => exact absurd hmeet (hlt hci hcj).ne

end Interval

end StarlarkMacro.Decimal
