import Storyboard.Number.Seconds
import Storyboard.Text.Cut
import Storyboard.Time.Stamp
import Storyboard.Xml.Node

/-! # Keywords

A keyword invocation is recorded as an element with a name, arguments and a
status. Arguments stand directly in the element or are wrapped in a list. A status
gives the start and the elapsed seconds, or the start and the end.
-/
namespace Storyboard

open Xml (Node)

structure Keyword where
  name : String
  status : String
  arguments : List String
  startTime : Option String
  elapsedMs : Int
deriving DecidableEq, Repr

/-- When a keyword started, as written, and for how many milliseconds it ran. -/
structure Timing where
  startTime : Option String
  elapsedMs : Int
deriving DecidableEq, Repr

namespace Timing

def spacedStart (start : String) : String :=
  String.ofList (Text.replaceFirst 'T' ' ' start.toList)

def between (zone : Time.Zone) (start finish : Option String) : Int :=
  match Time.stamp? zone start, Time.stamp? zone finish with
  | some s, some f => f - s
  | _, _ => 0

/-- The timing of a status element. An elapsed time counts only beside a start. -/
def ofStatus (zone : Time.Zone) (status : Node) : Timing :=
  match status.attribute? "start" with
  | some start =>
    ⟨some (spacedStart start), ((status.attribute? "elapsed").map Number.Seconds.millis).getD 0⟩
  | none =>
    let start := status.attribute? "starttime"
    ⟨start, between zone start (status.attribute? "endtime")⟩

end Timing

namespace Keyword

/-- A child, and after it the children that it wraps if it is a list of
arguments. -/
def unwrap (child : Node) : List Node :=
  child :: if child.isNamed "arguments" then child.children else []

def argumentsOf (children : List Node) : List String :=
  ((children.flatMap unwrap).filter (·.isNamed "arg")).map (·.leadingText)

def ofElement (zone : Time.Zone) (e : Node) : Keyword :=
  let timing := match e.child? "status" with
    | some status => Timing.ofStatus zone status
    | none => ⟨none, 0⟩
  { name := (e.attribute? "name").getD ""
    status := ((e.child? "status").bind (·.attribute? "status")).getD ""
    arguments := argumentsOf e.children
    startTime := timing.startTime
    elapsedMs := timing.elapsedMs }

end Keyword
end Storyboard
