import Storyboard.Text.Blank
import Storyboard.Text.Cut
import Storyboard.Time.Layout
import Storyboard.Time.Zone

/-! # Written zone rules

`NAME off`, or `NAME off DNAME [doff],start[/time],end[/time]`. A name has three to
seven letters, or letters, digits and signs in angle brackets; an offset
`[+-]h[:mm[:ss]]` counts west of universal time; a day is `Mm.w.d`, `Jn` or `n`. The
daylight offset is one hour east of the standard one unless it is given, and a
transition is at two o'clock unless its time is given. An offset that is given has
at most 23 hours, a time at most 24. ASCII white space around a rule does not count.
-/
namespace Storyboard.Time.Zone

def isName (name : List Char) : Bool :=
  3 ≤ name.length && name.length ≤ 7 && name.all fun c => c.isAlphanum || c == '+' || c == '-'

def dropName : List Char → Option (List Char)
  | '<' :: rest =>
    match Text.cut '>' rest with
    | some (name, rest) => if isName name then some rest else none
    | none => none
  | cs => if isName (cs.takeWhile Char.isAlpha) then some (cs.dropWhile Char.isAlpha) else none

def expect (c : Char) : List Char → Option (List Char)
  | [] => none
  | c' :: rest => if c' = c then some rest else none

def readWithin (low high : Nat) (cs : List Char) : Option (Nat × List Char) :=
  (readDigits cs.length cs).filter fun (n, _) => low ≤ n && n ≤ high

def readPart : List Char → Option (Nat × List Char)
  | ':' :: rest => readWithin 0 59 rest
  | rest => some (0, rest)

/-- The seconds of `h[:mm[:ss]]`, with a bound on the hours. -/
def readClock (maxHours : Nat) (cs : List Char) : Option (Nat × List Char) := do
  let (hours, cs) ← readWithin 0 maxHours cs
  let (minutes, cs) ← readPart cs
  let (seconds, cs) ← readPart cs
  return (hours * 3600 + minutes * 60 + seconds, cs)

/-- An offset, turned to seconds east of universal time. -/
def readOffset : List Char → Option (Int × List Char)
  | '-' :: rest => (readClock 23 rest).map fun (n, rest) => ((n : Int), rest)
  | '+' :: rest => (readClock 23 rest).map fun (n, rest) => (-(n : Int), rest)
  | rest => (readClock 23 rest).map fun (n, rest) => (-(n : Int), rest)

def readWeekday (cs : List Char) : Option (DayRule × List Char) := do
  let (month, cs) ← readWithin 1 12 cs
  let cs ← expect '.' cs
  let (week, cs) ← readWithin 1 5 cs
  let cs ← expect '.' cs
  let (weekday, cs) ← readWithin 0 6 cs
  return (.weekdayOf month week weekday, cs)

def readDayRule : List Char → Option (DayRule × List Char)
  | 'M' :: rest => readWeekday rest
  | 'J' :: rest => (readWithin 1 365 rest).map fun (n, rest) => (.numbered n, rest)
  | rest => (readWithin 0 365 rest).map fun (n, rest) => (.afterNewYear n, rest)

def readTransition (cs : List Char) : Option (Transition × List Char) := do
  let (day, cs) ← readDayRule cs
  match cs with
  | '/' :: rest =>
    let (time, rest) ← readClock 24 rest
    return (⟨day, time⟩, rest)
  | rest => return (⟨day, 7200⟩, rest)

def readDaylight (standard : Int) : List Char → Option (Int × List Char)
  | ',' :: rest => some (standard + 3600, ',' :: rest)
  | rest => readOffset rest

def isSpace (c : Char) : Bool := [' ', '\t', '\n', '\x0c', '\r'].contains c

def read? (text : String) : Option Zone := do
  let cs ← dropName (Text.trimBy isSpace text.toList)
  let (standard, cs) ← readOffset cs
  if cs.isEmpty then
    return .fixed standard
  let cs ← dropName cs
  let (daylight, cs) ← readDaylight standard cs
  let cs ← expect ',' cs
  let (start, cs) ← readTransition cs
  let cs ← expect ',' cs
  let (finish, cs) ← readTransition cs
  if cs.isEmpty then
    return .alternating ⟨standard, daylight, start, finish⟩
  else none

end Storyboard.Time.Zone
