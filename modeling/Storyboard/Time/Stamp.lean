import Storyboard.Time.Layout
import Storyboard.Time.Zone

/-! # Time stamps

A time stamp is the text of a wall-clock time. It denotes an instant in the zone
in which the run was recorded.
-/
namespace Storyboard.Time

def stampWith? (layouts : List Layout) (zone : Zone) (stamp : Option String) : Option Int :=
  match stamp with
  | none => none
  | some text => if text.isEmpty then none else (WallTime.read? layouts text).bind zone.instant?

/-- The milliseconds from the epoch that a stamp denotes, if it is present and
one of the accepted layouts reads it. -/
def stamp? (zone : Zone) (stamp : Option String) : Option Int :=
  stampWith? Layout.accepted zone stamp

end Storyboard.Time
