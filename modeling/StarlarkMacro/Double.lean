import StarlarkMacro.Decimal.Shortest

/-!
# Double precision numbers and their text

A number is given by its sixty-four bits. Its text is the decimal of fewest digits that a reader rounds
back to the same bits: positional from `10 ^ -4` up to but not including `10 ^ 16`, with a digit on each
side of the point, and otherwise with a signed exponent of at least two digits.
-/

namespace StarlarkMacro

structure Double where
  bits : UInt64
  deriving DecidableEq, Repr

namespace Double

def isNegative (x : Double) : Bool := x.bits >>> 63 = 1

def exponentField (x : Double) : Nat := ((x.bits >>> 52) &&& 0x7FF).toNat

def fraction (x : Double) : Nat := (x.bits &&& 0xFFFFFFFFFFFFF).toNat

def isFinite (x : Double) : Bool := x.exponentField != 0x7FF

def isNaN (x : Double) : Bool := !x.isFinite && x.fraction != 0

/-- The size of a finite number is `significand * 2 ^ exponent`. -/
def significand (x : Double) : Nat :=
  if x.exponentField = 0 then x.fraction else Nat.pow 2 52 + x.fraction

def exponent (x : Double) : Int :=
  if x.exponentField = 0 then -1074 else (x.exponentField : Int) - 1075

/-- The reals that round to the size of a finite number other than zero. Below a power of two the next
number is only half as far away as above it. -/
def interval (x : Double) : Decimal.Interval :=
  let m := x.significand
  let narrow := x.fraction = 0 ∧ 1 < x.exponentField
  let up := Nat.pow 2 (x.exponent - 2).toNat
  { lower := (if narrow then 4 * m - 1 else 4 * m - 2) * up
    centre := 4 * m * up
    upper := (4 * m + 2) * up
    scale := Nat.pow 2 (2 - x.exponent).toNat
    closed := m % 2 = 0 }

/-- The size itself as a decimal. -/
def exact (x : Double) : Decimal.Scaled :=
  if 0 ≤ x.exponent then ⟨x.significand * Nat.pow 2 x.exponent.toNat, 0⟩
  else ⟨x.significand * Nat.pow 5 (-x.exponent).toNat, x.exponent⟩

def dropTrailingZeros (digits : List Char) : List Char :=
  (digits.reverse.dropWhile (· = '0')).reverse

def zeros (n : Nat) : List Char := List.replicate n '0'

/-- Digits with the point behind the first `point` of them, which may lie outside the digits. -/
def positional (digits : List Char) (point : Int) : List Char :=
  if point ≤ 0 then '0' :: '.' :: zeros (-point).toNat ++ digits
  else if digits.length ≤ point.toNat then
    digits ++ zeros (point.toNat - digits.length) ++ ['.', '0']
  else digits.take point.toNat ++ '.' :: digits.drop point.toNat

def exponentText (e : Int) : List Char :=
  let digits := Nat.toDigits 10 e.natAbs
  'e' :: (if e < 0 then '-' else '+') :: zeros (2 - digits.length) ++ digits

def scientific (digits : List Char) (e : Int) : List Char :=
  digits.take 1 ++ (if digits.length ≤ 1 then [] else '.' :: digits.drop 1) ++ exponentText e

/-- The text of the size of a finite number. -/
def sizeText (x : Double) : List Char :=
  if x.significand = 0 then ['0', '.', '0']
  else
    let shortest := x.interval.shortest x.exact
    let all := Nat.toDigits 10 shortest.coefficient
    let digits := dropTrailingZeros all
    let leading := shortest.exponent + all.length - 1
    if -4 ≤ leading ∧ leading < 16 then positional digits (leading + 1)
    else scientific digits leading

/-- A number that is not finite is `nan`, `inf` or `-inf`. -/
def text (x : Double) : List Char :=
  if x.isNaN then ['n', 'a', 'n']
  else
    (if x.isNegative then ['-'] else []) ++ if x.isFinite then x.sizeText else ['i', 'n', 'f']

end Double

end StarlarkMacro
