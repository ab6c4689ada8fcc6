/-!
# The shortest decimal in an interval

An interval of positive rationals around a centre is searched on the grids of the powers of ten, from
the coarsest that can hold a hit to the finest that holds the centre itself. The first grid with a
point in the interval wins; of two points the nearer one is taken, and an exact tie goes to the even
one. Zero is no candidate. The bounds of an interval are naturals over one denominator, so every
comparison is exact.
-/

namespace StarlarkMacro.Decimal

/-- The number `coefficient * 10 ^ exponent`. -/
structure Scaled where
  coefficient : Nat
  exponent : Int
  deriving DecidableEq, Repr

/-- The interval from `lower / scale` to `upper / scale` around `centre / scale`, with both ends or
with neither. -/
structure Interval where
  lower : Nat
  centre : Nat
  upper : Nat
  scale : Nat
  closed : Bool
  deriving Repr

namespace Interval

/-- Both sides of `d ? bound / scale` over a common denominator. -/
def sides (i : Interval) (d : Scaled) (bound : Nat) : Nat × Nat :=
  (d.coefficient * Nat.pow 10 d.exponent.toNat * i.scale, bound * Nat.pow 10 (-d.exponent).toNat)

def contains (i : Interval) (d : Scaled) : Bool :=
  let low := i.sides d i.lower
  let high := i.sides d i.upper
  if i.closed then decide (low.2 ≤ low.1) && decide (high.1 ≤ high.2)
  else decide (low.2 < low.1) && decide (high.1 < high.2)

/-- The multiple of `10 ^ exponent` at or directly below the centre. -/
def below (i : Interval) (exponent : Int) : Scaled :=
  ⟨i.centre * Nat.pow 10 (-exponent).toNat / (i.scale * Nat.pow 10 exponent.toNat), exponent⟩

/-- Of the two multiples of `10 ^ exponent` around the centre, the lower one is the better: it is
nearer, or as near and even. -/
def prefersBelow (i : Interval) (d : Scaled) : Bool :=
  let middle := i.sides ⟨2 * d.coefficient + 1, d.exponent⟩ (2 * i.centre)
  decide (middle.2 < middle.1) || (middle.1 = middle.2 && d.coefficient % 2 = 0)

def candidate? (i : Interval) (exponent : Int) : Option Scaled :=
  let low := i.below exponent
  let high : Scaled := ⟨low.coefficient + 1, exponent⟩
  match decide (0 < low.coefficient) && i.contains low, i.contains high with
  | true, true => some (if i.prefersBelow low then low else high)
  | true, false => some low
  | false, true => some high
  | false, false => none

/-- The least `k` with `centre / scale < 10 ^ k`. -/
def magnitude (i : Interval) : Int :=
  if i.scale ≤ i.centre then (Nat.toDigits 10 (i.centre / i.scale)).length
  else 1 - ((Nat.toDigits 10 ((i.scale - 1) / i.centre)).length : Int)

/-- The first hit on the grids `top`, `top - 1`, and so on, `steps` of them. -/
def search (i : Interval) : Nat → Int → Option Scaled
  | 0, _ => none
  | steps + 1, top =>
    match i.candidate? top with
    | some d => some d
    | none => i.search steps (top - 1)

/-- The point of fewest digits, where `exact` is the centre as a decimal. -/
def shortest (i : Interval) (exact : Scaled) : Scaled :=
  let top := i.magnitude - 1
  (i.search (top - exact.exponent).toNat top).getD exact

end Interval

end StarlarkMacro.Decimal
