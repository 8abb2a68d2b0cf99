import Storyboard.Files.Lookup

/-! # Changes to a disk

Each change names the place that it changes and leaves all others alone. The
directory of a place is looked up through links; the last segment is taken as it
is written.
-/
namespace Storyboard.Files

namespace Disk

/-- The directory in which the last segment of a path stands, and this segment.
The root has no such directory. -/
def parentOf (d : Disk) (p : Path) : Except Fault (Option (Location × Segment)) :=
  match checkPath p with
  | .error f => .error f
  | .ok _ =>
    match p.segments.reverse with
    | [] => .ok none
    | last :: before =>
      match d.walk true linkLimit (startOf p d.here) before.reverse with
      | .error f => .error f
      | .ok (.vacant _) => .error .notFound
      | .ok (.present loc _) =>
        match d.bar? loc last with
        | some f => .error f
        | none => .ok (some (loc, last))

def addEntry (d : Disk) (loc : Location) (s : Name) (e : Entry) : Except Fault Disk :=
  if nameLimit < s.length then .error .invalidName
  else
    match d.entryAt (loc ++ [s]) with
    | some _ => .error .alreadyExists
    | none =>
      match d.add loc with
      | some o => .error (.refused o)
      | none => .ok (d.put (loc ++ [s]) e)

def makeDirectory (d : Disk) (p : Path) : Except Fault Disk :=
  match d.parentOf p with
  | .error f => .error f
  | .ok (some (loc, .name s)) => d.addEntry loc s .directory
  | .ok _ => .error .alreadyExists

/-- Makes the first of some nested directories, the innermost one first, and
before it the others as far as they are missing. -/
def makeAncestors (d : Disk) : List Path → Disk × Except Fault Unit
  | [] => (d, .ok ())
  | p :: outer =>
    match d.makeDirectory p with
    | .ok d => (d, .ok ())
    | .error .notFound =>
      match d.makeAncestors outer with
      | (d, .error f) => (d, .error f)
      | (d, .ok _) =>
        match d.makeDirectory p with
        | .ok d => (d, .ok ())
        | .error f => if d.isDirectory p then (d, .ok ()) else (d, .error f)
    | .error f => if d.isDirectory p then (d, .ok ()) else (d, .error f)

def makeDirectories (d : Disk) (p : Path) : Disk × Except Fault Unit :=
  d.makeAncestors p.ancestors

def createFile (d : Disk) (p : Path) : Except Fault (Disk × Location) :=
  match d.parentOf p with
  | .error f => .error f
  | .ok (some (loc, .name s)) =>
    if p.endsInSlash then .error .isADirectory
    else
      match d.addEntry loc s (.file ByteArray.empty) with
      | .error f => .error f
      | .ok d => .ok (d, loc ++ [s])
  | .ok _ => .error .isADirectory

/-- Why a file cannot take all of a content, with the number of bytes that it takes. -/
def shortage? (d : Disk) (loc : Location) (content : ByteArray) : Option (Nat × Obstacle) :=
  (d.room loc).filter fun limit => limit.1 < content.size

def fill (d : Disk) (loc : Location) (content : ByteArray) : Disk × Except Fault Unit :=
  match d.shortage? loc content with
  | some (n, o) => (d.put loc (.file (content.extract 0 n)), .error (.refused o))
  | none => (d.put loc (.file content), .ok ())

def writeFile (d : Disk) (p : Path) (content : ByteArray) : Disk × Except Fault Unit :=
  match d.locate true p with
  | .error f => (d, .error f)
  | .ok (.vacant loc) =>
    match d.add loc.dropLast with
    | some o => (d, .error (.refused o))
    | none => d.fill loc content
  | .ok (.present loc (.file _)) => d.fill loc content
  | .ok (.present loc (.special _ _ unwritable)) =>
    match unwritable.or ((d.shortage? loc content).map (·.2)) with
    | some o => (d, .error (.refused o))
    | none => (d, .ok ())
  | .ok (.present _ _) => (d, .error .isADirectory)

/-- Moves what is at a place onto a path. Whatever file or link is there is
replaced; a directory is not, and a path that names a directory by its last
segment is no place to move to. -/
def moveFile (d : Disk) (source : Location) (p : Path) : Except Fault Disk :=
  match d.parentOf p with
  | .error f => .error f
  | .ok (some (loc, .name s)) =>
    match d.entryAt source with
    | none => .error .notFound
    | some e =>
      if nameLimit < s.length then .error .invalidName
      else if p.endsInSlash then .error .notADirectory
      else
        match d.replace (loc ++ [s]) with
        | some o => .error (.refused o)
        | none =>
          if d.entryAt (loc ++ [s]) = some .directory then .error .isADirectory
          else .ok ((d.remove source).put (loc ++ [s]) e)
  | .ok _ => .error .busy

end Disk
end Storyboard.Files
