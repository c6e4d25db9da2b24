import LineMachine.Number

/-!
Shortest decimals.  The rationals that round to a given number form an interval;
among the decimals inside it, those with the fewest digits are chosen, and of
these the one nearest to the number.
-/

namespace LineMachine

/-- The decimal `digits * 10 ^ exponent`. -/
structure Decimal where
  digits : Nat
  exponent : Int
deriving DecidableEq, Repr

/-- Which of two decimals is taken when both are equally near. -/
inductive Tie where
  /-- The one with an even last digit. -/
  | toEven
  /-- The larger one. -/
  | upward
deriving DecidableEq, Repr

/-- An interval of rationals whose ends both belong to it or both do not. -/
structure RationalInterval where
  low : Rat
  high : Rat
  closed : Bool

namespace RationalInterval

def contains (interval : RationalInterval) (x : Rat) : Bool :=
  if interval.closed then decide (interval.low ≤ x) && decide (x ≤ interval.high)
  else decide (interval.low < x) && decide (x < interval.high)

/-- The least significand of a number that is stored with all its bits. -/
def leastNormal : Nat := 0x10000000000000

/-- The exponent of the smallest numbers. -/
def leastExponent : Int := -1074

/-- The rationals that round to `significand * 2 ^ exponent`.  They reach half way
to the neighbours; below a power of two the neighbour is only half as far, and the
ends belong to an even significand. -/
def aroundBinary (significand : Nat) (exponent : Int) : RationalInterval :=
  let unit := (2 : Rat) ^ exponent
  let narrow := significand = leastNormal ∧ leastExponent < exponent
  let below := if narrow then unit / 4 else unit / 2
  { low := significand * unit - below
    high := significand * unit + unit / 2
    closed := significand % 2 = 0 }

end RationalInterval

namespace Decimal

def value (d : Decimal) : Rat :=
  d.digits * (10 : Rat) ^ d.exponent

/-- The same decimal without trailing zeros among its digits. -/
def strip (d : Decimal) : Decimal :=
  if h : d.digits ≠ 0 ∧ d.digits % 10 = 0 then
    strip ⟨d.digits / 10, d.exponent + 1⟩
  else d
termination_by d.digits
decreasing_by exact Nat.div_lt_self (Nat.pos_of_ne_zero h.1) (by decide)

/-- The number of digits of a whole number. -/
def digitCount (n : Nat) : Nat :=
  (Nat.toDigits 10 n).length

/-- The least `k` such that the positive rational is below `10 ^ k`. -/
def pointPosition (x : Rat) : Int :=
  if 1 ≤ x then digitCount x.floor.toNat
  else 1 - digitCount (x⁻¹.ceil.toNat - 1)

/-- Of the two multiples of `10 ^ exponent` next to `x`, the nearer one that lies
in the interval. -/
def nearest? (tie : Tie) (interval : RationalInterval) (x : Rat) (exponent : Int) :
    Option Decimal :=
  let scaled := x / (10 : Rat) ^ exponent
  let floor := scaled.floor.toNat
  let lower : Decimal := ⟨floor, exponent⟩
  let upper : Decimal := ⟨floor + 1, exponent⟩
  match interval.contains lower.value, interval.contains upper.value with
  | false, false => none
  | true, false => some lower
  | false, true => some upper
  | true, true =>
      let doubled := 2 * (scaled - floor)
      if doubled < 1 then some lower
      else if 1 < doubled then some upper
      else match tie with
        | .upward => some upper
        | .toEven => some (if floor % 2 = 0 then lower else upper)

/-- The exact decimal expansion of `significand * 2 ^ exponent`. -/
def exact (significand : Nat) (exponent : Int) : Decimal :=
  if 0 ≤ exponent then ⟨significand <<< exponent.toNat, 0⟩
  else ⟨significand * Nat.pow 5 (-exponent).toNat, exponent⟩

/-- The most digits that the search tries; as many always suffice. -/
def mostDigits : Nat := 17

/-- The shortest decimal that rounds to the positive number
`significand * 2 ^ exponent`, and of several the nearest. -/
def shortest (tie : Tie) (significand : Nat) (exponent : Int) : Decimal :=
  let x := (significand : Rat) * (2 : Rat) ^ exponent
  let interval := RationalInterval.aroundBinary significand exponent
  let position := pointPosition x
  let found := (List.range mostDigits).findSome? fun count =>
    nearest? tie interval x (position - (count + 1 : Nat))
  (found.getD (exact significand exponent)).strip

end Decimal

end LineMachine
