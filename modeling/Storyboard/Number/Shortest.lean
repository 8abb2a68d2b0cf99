import Storyboard.Number.Binary64

/-! # Shortest decimal digits

The decimal numbers that round to a binary64 number fill an interval around it,
with its ends if the significand is even. Of these decimals the one on the
coarsest grid `c · 10^k` is taken, and on that grid the one nearest to the number.
-/
namespace Storyboard.Number

structure Decimal where
  digits : Nat
  exponent : Int
deriving DecidableEq, Repr

/-- The numbers between `low` and `high`, in units of `2^unit`, around `value`. -/
structure Interval where
  low : Nat
  value : Nat
  high : Nat
  unit : Int
  closed : Bool
deriving Repr

namespace Interval

/-- The interval of the numbers that round to a positive number. Below a power of
two the next number is only half as far. -/
def around (significand : Nat) (exponent : Int) : Interval :=
  let below :=
    if significand = Nat.pow 2 (Binary64.precision - 1) ∧ Binary64.minExponent < exponent then 1
    else 2
  { low := 4 * significand - below, value := 4 * significand, high := 4 * significand + 2,
    unit := exponent - 2, closed := significand % 2 == 0 }

/-- A bound in units of `2^unit` and a decimal in units of `10^k`, both scaled to
natural numbers. -/
def onGrid (i : Interval) (k : Int) (bound c : Nat) : Nat × Nat :=
  (bound * Nat.pow 2 i.unit.toNat * Nat.pow 10 (-k).toNat,
    c * Nat.pow 10 k.toNat * Nat.pow 2 (-i.unit).toNat)

def contains (i : Interval) (k : Int) (c : Nat) : Bool :=
  let (low, c') := i.onGrid k i.low c
  let (high, _) := i.onGrid k i.high c
  if i.closed then low ≤ c' && c' ≤ high else low < c' && c' < high

def floorOn (i : Interval) (k : Int) : Nat :=
  let (value, one) := i.onGrid k i.value 1
  value / one

def nextIsNearer (i : Interval) (k : Int) (c : Nat) : Bool :=
  let (value, here) := i.onGrid k i.value c
  let (_, next) := i.onGrid k i.value (c + 1)
  next - value < value - here || (next - value == value - here && c % 2 == 1)

def pick? (i : Interval) (k : Int) : Option Nat :=
  let c := i.floorOn k
  match i.contains k c, i.contains k (c + 1) with
  | true, true => some (if i.nextIsNearer k c then c + 1 else c)
  | true, false => some c
  | false, true => some (c + 1)
  | false, false => none

def search (i : Interval) : Nat → Int → Decimal
  | 0, k => ⟨i.floorOn k, k⟩
  | n + 1, k =>
    match i.pick? k with
    | some c => ⟨c, k⟩
    | none => search i n (k - 1)

end Interval

def tenAbove (e : Int) : Int := e * 30103 / 100000 + 1

/-- The shortest decimal that rounds to `significand · 2^exponent`, for a positive
significand. -/
def shortest (significand : Nat) (exponent : Int) : Decimal :=
  (Interval.around significand exponent).search 24 (tenAbove (significand.log2 + 1 + exponent))

end Storyboard.Number
