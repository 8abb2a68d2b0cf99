import Storyboard.Failure
import Storyboard.Files.Change

/-! # Publishing files

A file is staged under a name of its own in the directory of its destination, filled and
flushed there, and then moved to the destination, which so never holds a part of it. A
staged file that does not get there is removed.
-/
namespace Storyboard.Files

def sixDigits (n : Nat) : String :=
  let ds := toString n
  String.ofList (List.replicate (6 - ds.length) '0') ++ ds

def stagedName (stem : Name) (n : Nat) : Name :=
  dot :: stem ++ dot :: Text.utf8 (sixDigits n) ++ Text.utf8 ".tmp"

/-- What staged names are made of: the name of the file, if that is a text. -/
def stemOf (name : Option Name) : Name := (name.filter Text.isText).getD (Text.utf8 "staged")

namespace Disk

def stagedPath (d : Disk) (parent : Path) (stem : Name) (n : Nat) : Path :=
  (d.here.toPath.join parent).join ⟨stagedName stem n⟩

/-- Stages an empty file in a directory, under the first staged name that is free. -/
def stage (d : Disk) (parent : Path) (stem : Name) : Except Fault (Disk × Location × Path) :=
  let attempt (n : Nat) : Option (Except Fault (Disk × Location × Path)) :=
    match d.createFile (d.stagedPath parent stem n) with
    | .error .alreadyExists => none
    | .error f => some (.error f)
    | .ok (staged, source) => some (.ok (staged, source, d.stagedPath parent stem n))
  ((List.range (d.entries.length + 1)).findSome? attempt).getD (.error .alreadyExists)

def deliver (d : Disk) (source : Location) (staged p : Path) (content : ByteArray) :
    Disk × Except Failure Unit :=
  match d.fill source content with
  | (d, .error f) => (d, .error (.write staged f))
  | (d, .ok _) =>
    match d.flush source with
    | some o => (d, .error (.flush staged (.refused o)))
    | none =>
      match d.moveFile source p with
      | .error f => (d, .error (.publish p f))
      | .ok d => (d, .ok ())

/-- Replaces what is at a path by a file, and makes the directories around it. -/
def publish (d : Disk) (p : Path) (content : ByteArray) : Disk × Except Failure Unit :=
  match p.parent? with
  | none => (d, .error (.noParent p))
  | some parent =>
    match d.makeDirectories parent with
    | (d, .error f) => (d, .error (.createParent parent f))
    | (d, .ok _) =>
      match d.stage parent (stemOf p.fileName?) with
      | .error f => (d, .error (.stage p f))
      | .ok (d, source, staged) =>
        match d.deliver source staged p content with
        | (d, .error e) => (d.remove source, .error e)
        | (d, .ok _) => (d, .ok ())

end Disk
end Storyboard.Files
