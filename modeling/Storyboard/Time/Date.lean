/-! # Calendar dates

Dates of the proleptic Gregorian calendar, with a year zero. A date is a year, a
month and a day as written; `Date.Valid` says which of them exist. Days are
numbered from 1970-01-01.
-/
namespace Storyboard.Time

structure Date where
  year : Int
  month : Nat
  day : Nat
deriving DecidableEq, Repr

def isLeapYear (year : Int) : Bool :=
  year % 4 == 0 && (year % 100 != 0 || year % 400 == 0)

def daysInMonth (year : Int) (month : Nat) : Nat :=
  if month = 2 then (if isLeapYear year then 29 else 28)
  else if month = 4 ∨ month = 6 ∨ month = 9 ∨ month = 11 then 30
  else 31

namespace Date

/-- Years outside these bounds have no dates. -/
def minYear : Int := -262143
def maxYear : Int := 262142

def Valid (d : Date) : Prop :=
  minYear ≤ d.year ∧ d.year ≤ maxYear ∧ 1 ≤ d.month ∧ d.month ≤ 12 ∧ 1 ≤ d.day ∧
    d.day ≤ daysInMonth d.year d.month

instance (d : Date) : Decidable d.Valid := by
  unfold Valid
  infer_instance

/-- Days before the first of a month in a year that starts in March. -/
def daysBeforeMonth (month : Nat) : Nat := (153 * ((month + 9) % 12) + 2) / 5

/-- Days from 1970-01-01. Years are counted from March, so that the leap day is
the last day of its year. -/
def dayNumber (d : Date) : Int :=
  let year := if d.month ≤ 2 then d.year - 1 else d.year
  365 * year + year / 4 - year / 100 + year / 400 + daysBeforeMonth d.month + d.day - 719469

def pred (d : Date) : Date :=
  if 1 < d.day then ⟨d.year, d.month, d.day - 1⟩
  else if 1 < d.month then ⟨d.year, d.month - 1, daysInMonth d.year (d.month - 1)⟩
  else ⟨d.year - 1, 12, 31⟩

def pred? (d : Date) : Option Date :=
  if d.pred.Valid then some d.pred else none

/-- The day of the week, `0` for Sunday. -/
def weekday (d : Date) : Nat := ((d.dayNumber + 4) % 7).toNat

end Date
end Storyboard.Time
