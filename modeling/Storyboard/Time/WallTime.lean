import Storyboard.Time.Date

/-! # Wall-clock times

A date with a time of day, without a zone. A leap second is second 59 with
nanoseconds from 10⁹ on. Milliseconds are counted from 1970-01-01 00:00:00 on the
same wall clock.
-/
namespace Storyboard.Time

structure WallTime where
  date : Date
  hour : Nat
  minute : Nat
  second : Nat
  nanos : Nat
deriving DecidableEq, Repr

namespace WallTime

def leapNanos : Nat := 1000000000

/-- The wall time that the fields of a text denote, if there is one. Second 60 is
the leap second of any minute. -/
def ofFields? (date : Date) (hour minute second nanos : Nat) : Option WallTime :=
  if date.Valid ∧ hour ≤ 23 ∧ minute ≤ 59 ∧ second ≤ 60 then
    if second = 60 then some ⟨date, hour, minute, 59, nanos + leapNanos⟩
    else some ⟨date, hour, minute, second, nanos⟩
  else none

/-- Whole seconds on the wall clock; a leap second counts as the second before. -/
def seconds (w : WallTime) : Int :=
  w.date.dayNumber * 86400 + w.hour * 3600 + w.minute * 60 + w.second

def millis (w : WallTime) : Int := w.seconds * 1000 + (w.nanos / 1000000 : Nat)

/-- The same time of day one day earlier. A leap second is counted as the second
that follows it. -/
def dayBefore? (w : WallTime) : Option WallTime :=
  if w.nanos < leapNanos then w.date.pred?.map fun d => { w with date := d }
  else if w.minute < 59 then
    w.date.pred?.map fun d => ⟨d, w.hour, w.minute + 1, 0, w.nanos - leapNanos⟩
  else if w.hour < 23 then w.date.pred?.map fun d => ⟨d, w.hour + 1, 0, 0, w.nanos - leapNanos⟩
  else some ⟨w.date, 0, 0, 0, w.nanos - leapNanos⟩

def minSeconds : Int := (Date.mk Date.minYear 1 1).dayNumber * 86400
def maxSeconds : Int := (Date.mk Date.maxYear 12 31).dayNumber * 86400 + 86399

end WallTime
end Storyboard.Time
