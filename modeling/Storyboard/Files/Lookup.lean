import Storyboard.Files.Disk

/-! # Looking up paths

A lookup walks along the segments of a path, from the root or from the working
directory. Links are followed, at most forty of them. A walk ends at an entry, or
at a vacant place in a directory.
-/
namespace Storyboard.Files

inductive Spot
  | present (loc : Location) (entry : Entry)
  | vacant (loc : Location)
deriving DecidableEq

def linkLimit : Nat := 40

def nameLimit : Nat := 255

def pathLimit : Nat := 4095

/-- The segments of a walk: a slash at the end is one of them. -/
def Path.walkSegments (p : Path) : List Segment :=
  p.segments ++ if p.endsInSlash then [.slash] else []

namespace Disk

def startOf (p : Path) (here : Location) : Location := if p.isAbsolute then [] else here

/-- Why a segment leads nowhere from a place. A slash asks for a directory, but does not
look into it. -/
def bar? (d : Disk) (loc : Location) (segment : Segment) : Option Fault :=
  match d.entryAt loc with
  | none => some .notFound
  | some .directory => if segment = .slash then none else (d.search loc).map .refused
  | some _ => some .notADirectory

/-- Walks without links; a link on the way is handed to `follow`, with the place
where its target starts and the segments that are left. -/
def walkWith (d : Disk) (followLast : Bool)
    (follow : Location → List Segment → Except Fault Spot) :
    Location → List Segment → Except Fault Spot
  | loc, [] =>
    match d.entryAt loc with
    | some e => .ok (.present loc e)
    | none => .error .notFound
  | loc, segment :: rest =>
    match d.bar? loc segment with
    | some f => .error f
    | none =>
      match segment with
      | .here => walkWith d followLast follow loc rest
      | .slash => walkWith d followLast follow loc rest
      | .up => walkWith d followLast follow loc.dropLast rest
      | .name s =>
        if nameLimit < s.length then .error .invalidName
        else
          match d.entryAt (loc ++ [s]) with
          | some (.link target) =>
            if rest.isEmpty && !followLast then .ok (.present (loc ++ [s]) (.link target))
            else follow (startOf target loc) (target.walkSegments ++ rest)
          | some _ => walkWith d followLast follow (loc ++ [s]) rest
          | none => if rest.isEmpty then .ok (.vacant (loc ++ [s])) else .error .notFound

def walk (d : Disk) (followLast : Bool) : Nat → Location → List Segment → Except Fault Spot
  | 0 => d.walkWith followLast fun _ _ => .error .loop
  | n + 1 => d.walkWith followLast (d.walk followLast n)

/-- The paths that can be asked for at all. -/
def checkPath (p : Path) : Except Fault Unit :=
  if p.bytes.contains 0 then .error .invalidInput
  else if p.bytes.isEmpty then .error .notFound
  else if pathLimit < p.bytes.length then .error .invalidName
  else .ok ()

def locate (d : Disk) (followLast : Bool) (p : Path) : Except Fault Spot :=
  match checkPath p with
  | .error f => .error f
  | .ok _ => d.walk followLast linkLimit (startOf p d.here) p.walkSegments

def lookup (d : Disk) (p : Path) : Except Fault (Location × Entry) :=
  match d.locate true p with
  | .ok (.present loc e) => .ok (loc, e)
  | .ok (.vacant _) => .error .notFound
  | .error f => .error f

def pathExists (d : Disk) (p : Path) : Bool :=
  match d.lookup p with
  | .ok _ => true
  | .error _ => false

def isDirectory (d : Disk) (p : Path) : Bool :=
  match d.lookup p with
  | .ok (_, .directory) => true
  | _ => false

def readBytes (d : Disk) (p : Path) : Except Fault ByteArray :=
  match d.lookup p with
  | .ok (_, e) => e.read
  | .error f => .error f

def readText (d : Disk) (p : Path) : Except Fault String :=
  match d.readBytes p with
  | .error f => .error f
  | .ok bytes =>
    match String.fromUTF8? bytes with
    | some text => .ok text
    | none => .error .invalidData

end Disk
end Storyboard.Files
