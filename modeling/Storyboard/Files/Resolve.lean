import Storyboard.Files.Lookup

/-! # Resolving paths

A path that leads somewhere is resolved to the path of that place. On the way, every entry
is asked for by its own path from the root, and resolving fails where that path is too long
or goes through a directory that may not be searched, although the walk itself does not.
Any other path is only made absolute.
-/
namespace Storyboard.Files

/-- Whether the segments behind an entry ask for a directory and not for what is in it. -/
def Segment.wantDirectory (rest : List Segment) : Bool :=
  match rest.dropWhile fun s => s == .here || s == .slash with
  | .up :: _ => true
  | [] => !rest.isEmpty
  | _ => false

namespace Disk

/-- The paths that are asked for along some segments; a link is handed to `follow`. -/
def stopsWith (d : Disk) (follow : Location → List Segment → List Path) :
    Location → List Segment → List Path
  | _, [] => []
  | loc, .here :: rest => stopsWith d follow loc rest
  | loc, .slash :: rest => stopsWith d follow loc rest
  | loc, .up :: rest => stopsWith d follow loc.dropLast rest
  | loc, .name s :: rest =>
    let stop := Location.toPath (loc ++ [s])
    match d.entryAt (loc ++ [s]) with
    | some (.link target) => stop :: follow (startOf target loc) (target.walkSegments ++ rest)
    | _ =>
      (if Segment.wantDirectory rest then stop.join ⟨[]⟩ else stop) ::
        stopsWith d follow (loc ++ [s]) rest

def stopsWithin (d : Disk) : Nat → Location → List Segment → List Path
  | 0 => d.stopsWith fun _ _ => []
  | n + 1 => d.stopsWith (d.stopsWithin n)

def stops (d : Disk) (p : Path) : List Path :=
  d.stopsWithin linkLimit (startOf p d.here) p.walkSegments

def refusal? (d : Disk) (p : Path) : Option Fault :=
  match d.locate false p with
  | .ok _ => none
  | .error f => some f

/-- The absolute path that a run uses for a path: the place itself if there is one, and
else the path as written, from the working directory. -/
def resolve (d : Disk) (p : Path) : Except Fault Path :=
  match d.lookup p with
  | .ok (loc, _) =>
    match (d.stops p).findSome? d.refusal? with
    | some f => .error f
    | none => .ok loc.toPath
  | .error _ => if p.bytes.isEmpty then .error .invalidInput else .ok (p.absolute d.here.toPath)

end Disk
end Storyboard.Files
