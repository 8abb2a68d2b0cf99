import Storyboard.Time.WallTime

/-! # Time zones

A zone has a fixed offset from universal time, or it alternates between two
offsets by a rule that holds in every year. Offsets are seconds east of universal
time. Transitions are given on the wall clock that is in force before them.
-/
namespace Storyboard.Time

inductive DayRule
  /-- A weekday (`0` for Sunday) of a week of a month; week 5 is the last one that
  has this weekday. -/
  | weekdayOf (month week weekday : Nat)
  /-- The day with a number, from 1 on; a leap day has no number. -/
  | numbered (day : Nat)
  /-- The day some days after the first of January, leap days counted. -/
  | afterNewYear (days : Nat)
deriving DecidableEq, Repr

def monthLengths (leap : Bool) : List Nat :=
  [31, if leap then 29 else 28, 31, 30, 31, 30, 31, 31, 30, 31, 30, 31]

/-- The month and the day `n` days after the first day of a month, given the
lengths of the months from there on. The last month takes all days that are
left. -/
def monthAndDay : List Nat → Nat → Nat → Nat × Nat
  | length :: next :: rest, month, n =>
    if n < length then (month, n + 1) else monthAndDay (next :: rest) (month + 1) (n - length)
  | _, month, n => (month, n + 1)

def DayRule.date (r : DayRule) (year : Int) : Date :=
  match r with
  | .weekdayOf month week weekday =>
    let first := (Date.mk year month 1).weekday
    let day := 1 + (weekday + 7 - first) % 7 + (week - 1) * 7
    ⟨year, month, if daysInMonth year month < day then day - 7 else day⟩
  | .numbered day =>
    let (month, day) := monthAndDay (monthLengths false) 1 (day - 1)
    ⟨year, month, day⟩
  | .afterNewYear days =>
    let (month, day) := monthAndDay (monthLengths (isLeapYear year)) 1 days
    ⟨year, month, day⟩

/-- A transition at a number of seconds after the midnight that starts its day. -/
structure Transition where
  day : DayRule
  time : Nat
deriving DecidableEq, Repr

def Transition.seconds (t : Transition) (year : Int) : Int :=
  (t.day.date year).dayNumber * 86400 + t.time

/-- Two offsets that alternate: the daylight offset holds from `start` to
`finish`. -/
structure Alternation where
  standard : Int
  daylight : Int
  start : Transition
  finish : Transition
deriving DecidableEq, Repr

inductive Zone
  | fixed (offset : Int)
  | alternating (rule : Alternation)
deriving DecidableEq, Repr

inductive Occurrence
  | once (offset : Int)
  /-- The wall time occurs twice; the smaller offset comes first. -/
  | twice (smaller larger : Int)
  | never
deriving DecidableEq, Repr

/-- Whether the month of the start precedes the month of the finish in a year. If
both fall into one month, the finish counts as the earlier one, on whatever days
they are. -/
def Alternation.startsFirst (r : Alternation) (year : Int) : Bool :=
  (r.start.day.date year).month < (r.finish.day.date year).month

/-- The offsets at which second `t` of the wall clock occurs in a year. The first
second of a gap counts as time before the jump when the year starts before it;
the last second of a repeated hour counts as repeated. -/
def Alternation.occurrence (r : Alternation) (year t : Int) : Occurrence :=
  let s := r.standard
  let d := r.daylight
  let a := r.start.seconds year
  let b := r.finish.seconds year
  if s = d then .once s
  else if s < d then
    if r.startsFirst year then
      if t ≤ a then .once s
      else if t < a + (d - s) then .never
      else if t < b - (d - s) then .once d
      else if t ≤ b then .twice s d
      else .once s
    else
      if t < b - (d - s) then .once d
      else if t ≤ b then .twice s d
      else if t < a then .once s
      else if t < a + (d - s) then .never
      else .once d
  else
    if r.startsFirst year then
      if t < a - (s - d) then .once s
      else if t ≤ a then .twice d s
      else if t < b then .once d
      else if t < b + (s - d) then .never
      else .once s
    else
      if t ≤ b then .once d
      else if t < b + (s - d) then .never
      else if t < a - (s - d) then .once s
      else if t ≤ a then .twice d s
      else .once d

namespace Zone

def utc : Zone := .fixed 0

def occurrence (z : Zone) (w : WallTime) : Occurrence :=
  match z with
  | .fixed offset => .once offset
  | .alternating r => r.occurrence w.date.year w.seconds

def isOffset (offset : Int) : Bool := -86400 < offset && offset < 86400

def onCalendar (w : WallTime) (offset : Int) : Bool :=
  isOffset offset && WallTime.minSeconds ≤ w.seconds - offset &&
    w.seconds - offset ≤ WallTime.maxSeconds

/-- The first offset at which a wall time occurs. An occurrence off the calendar
counts as none, also for a wall time that occurs twice. -/
def firstOffset? (z : Zone) (w : WallTime) : Option Int :=
  match z.occurrence w with
  | .once offset => if onCalendar w offset then some offset else none
  | .twice smaller larger =>
    if onCalendar w smaller && onCalendar w larger then some smaller else none
  | .never => none

/-- The milliseconds from the epoch to a wall time. A wall time that never occurs
takes the offset of the wall time one day earlier. -/
def instant? (z : Zone) (w : WallTime) : Option Int :=
  match z.firstOffset? w with
  | some offset => some (w.millis - offset * 1000)
  | none =>
    match w.dayBefore? with
    | none => none
    | some before => (z.firstOffset? before).map fun offset => w.millis - offset * 1000

end Zone
end Storyboard.Time
