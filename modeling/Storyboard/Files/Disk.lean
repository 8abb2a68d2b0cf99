import Storyboard.Files.Path

/-! # Disks

A disk is a tree of directories, files and symbolic links, with a working
directory. Places are named from the root down, so that each place has one name.
The root is a directory that is always there. What a process may do on a disk and how
much the disk still takes is given place by place, whatever stands there.
-/
namespace Storyboard.Files

/-- What may stand in the way of a request that the tree itself allows. -/
inductive Obstacle
  | denied
  | readOnly
  | full
  | inUse
  | broken
deriving DecidableEq, Repr

inductive Fault
  | notFound
  | isADirectory
  | notADirectory
  | alreadyExists
  /-- The content of a file is no text. -/
  | invalidData
  /-- The path is none that can be asked for. -/
  | invalidInput
  /-- A name or a path is too long. -/
  | invalidName
  /-- The place is a directory that is named by how it is reached. -/
  | busy
  /-- There are too many links to follow. -/
  | loop
  | refused (obstacle : Obstacle)
deriving DecidableEq, Repr

/-- The names from the root down to a place. -/
abbrev Location := List Name

-- Contents are compared by the core instance, whichever others are in scope.
instance instDecidableEqContent : DecidableEq ByteArray := ByteArray.instDecidableEq

inductive Entry
  | directory
  | file (content : ByteArray)
  | link (target : Path)
  /-- A device, a pipe, or a file that may not be both read and written: what is read from
  it does not depend on what is written to it. -/
  | special (given : ByteArray) (unreadable unwritable : Option Obstacle)
deriving DecidableEq

def Entry.read : Entry → Except Fault ByteArray
  | .file content => .ok content
  | .special given none _ => .ok given
  | .special _ (some o) _ => .error (.refused o)
  | .directory => .error .isADirectory
  | .link _ => .error .loop

/-- Where a process stands and which directories it may look into. -/
structure Host where
  /-- The working directory. -/
  here : Location
  /-- Why a directory may not be searched. -/
  search : Location → Option Obstacle := fun _ => none

structure Storage where
  /-- Why a directory takes no new entry. -/
  add : Location → Option Obstacle := fun _ => none
  /-- Why what is at a place, or the place itself, cannot be given to another entry. -/
  replace : Location → Option Obstacle := fun _ => none
  /-- The number of bytes that fit into a file at a place, and what stops the next one. -/
  room : Location → Option (Nat × Obstacle) := fun _ => none
  /-- Why a file cannot be flushed. -/
  flush : Location → Option Obstacle := fun _ => none

structure Disk extends Host, Storage where
  entries : List (Location × Entry)

def Location.toPath (loc : Location) : Path := ⟨slash :: List.intercalate [slash] loc⟩

namespace Disk

def entryAt (d : Disk) (loc : Location) : Option Entry :=
  if loc = [] then some .directory else d.entries.lookup loc

def put (d : Disk) (loc : Location) (e : Entry) : Disk :=
  { d with entries := (loc, e) :: d.entries.filter (·.1 != loc) }

def remove (d : Disk) (loc : Location) : Disk :=
  { d with entries := d.entries.filter (·.1 != loc) }

end Disk
end Storyboard.Files
