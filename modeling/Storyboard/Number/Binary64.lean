/-! # Finite binary64 numbers

A number is a sign, a significand below 2⁵³ and a power of two. Arithmetic is
exact on quotients of natural numbers and rounds once, to the nearest number and
to the even significand on a tie. A result too large to represent is `none`.
-/
namespace Storyboard.Number

/-- The number `(-1)^negative · significand · 2^exponent`. -/
structure Binary64 where
  negative : Bool
  significand : Nat
  exponent : Int
deriving DecidableEq, Repr

def roundHalfEven (num den : Nat) : Nat :=
  let q := num / den
  let r := num % den
  if 2 * r < den then q else if den < 2 * r then q + 1 else q + q % 2

namespace Binary64

def precision : Nat := 53
def minExponent : Int := -1074
def maxExponent : Int := 971

def zero (negative : Bool) : Binary64 := ⟨negative, 0, minExponent⟩

def scaled (num den : Nat) (e : Int) : Nat × Nat :=
  if 0 ≤ e then (num, den * Nat.pow 2 e.toNat) else (num * Nat.pow 2 (-e).toNat, den)

/-- The power of two at which `num / den` has a significand of full precision, or
the least one. -/
def exponentOf (num den : Nat) : Int :=
  let guess : Int := (num.log2 : Int) - den.log2 - precision
  let (n, d) := scaled num den guess
  max minExponent (if n < d * Nat.pow 2 precision then guess else guess + 1)

def ofRatio (negative : Bool) (num den : Nat) : Option Binary64 :=
  if num = 0 then some (zero negative)
  else
    let e := exponentOf num den
    let (n, d) := scaled num den e
    let m := roundHalfEven n d
    let (m, e) :=
      if m = Nat.pow 2 precision then (Nat.pow 2 (precision - 1), e + 1) else (m, e)
    if maxExponent < e then none else some ⟨negative, m, e⟩

def numerator (x : Binary64) : Nat := x.significand * Nat.pow 2 x.exponent.toNat
def denominator (x : Binary64) : Nat := Nat.pow 2 (-x.exponent).toNat

def isZero (x : Binary64) : Bool := x.significand == 0

def ofNat (n : Nat) : Option Binary64 := ofRatio false n 1

def mul (x y : Binary64) : Option Binary64 :=
  ofRatio (x.negative != y.negative) (x.numerator * y.numerator) (x.denominator * y.denominator)

def div (x y : Binary64) : Option Binary64 :=
  ofRatio (x.negative != y.negative) (x.numerator * y.denominator) (x.denominator * y.numerator)

/-- The number nearest to a decimal `digits · 10^e`. Decimals far outside the
range are told apart by their exponent alone. -/
def ofDecimal (negative : Bool) (digits : Nat) (e : Int) : Option Binary64 :=
  if digits = 0 then some (zero negative)
  else if 400 < e then none
  else if e < -(400 + (digits.log2 : Int)) then some (zero negative)
  else if 0 ≤ e then ofRatio negative (digits * Nat.pow 10 e.toNat) 1
  else ofRatio negative digits (Nat.pow 10 (-e).toNat)

/-- The nearest integer, a half away from zero. -/
def round (x : Binary64) : Int :=
  let n : Nat := (2 * x.numerator + x.denominator) / (2 * x.denominator)
  if x.negative then -(n : Int) else n

end Binary64
end Storyboard.Number
