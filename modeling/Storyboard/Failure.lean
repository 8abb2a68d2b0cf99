import Storyboard.Files.Disk
import Storyboard.Json.Value

/-! # Failures of a run

Each failure says what a run was about to do, to which path, and why the disk
refused, if it did. What could not be understood is part of the failure: it determines
where and why reading stopped. The wording is in one place.
-/
namespace Storyboard

open Files (Fault Path)

inductive Failure
  /-- A path has no absolute form. -/
  | resolve (path : Path) (fault : Fault)
  | readResult (path : Path) (fault : Fault)
  /-- A result tree is not well-formed; it need not come from a file. -/
  | malformedResult (path : Option Path) (text : String)
  | readManifest (path : Path) (fault : Fault)
  | malformedManifest (path : Path) (content : ByteArray)
  | manifestNotObject (path : Path)
  /-- A video path of a manifest has the wrong type. -/
  | manifestFields (path : Path) (rawVideoPath videoPath : Option Json.Kind)
  | noParent (path : Path)
  | createParent (parent : Path) (fault : Fault)
  | stage (path : Path) (fault : Fault)
  | write (staged : Path) (fault : Fault)
  | flush (staged : Path) (fault : Fault)
  | publish (path : Path) (fault : Fault)
deriving DecidableEq

namespace Failure

def fault? : Failure → Option Fault
  | .resolve _ f => some f
  | .readResult _ f => some f
  | .readManifest _ f => some f
  | .createParent _ f => some f
  | .stage _ f => some f
  | .write _ f => some f
  | .flush _ f => some f
  | .publish _ f => some f
  | _ => none

def message : Failure → String
  | .resolve p _ => "resolve " ++ p.shown
  | .readResult p _ => "read " ++ p.shown
  | .malformedResult none _ => "parse output XML"
  | .malformedResult (some p) _ => "parse " ++ p.shown ++ ": parse output XML"
  | .readManifest p _ => "read manifest " ++ p.shown
  | .malformedManifest p _ => "parse manifest JSON " ++ p.shown
  | .manifestNotObject p => "manifest " ++ p.shown ++ " is not a JSON object"
  | .manifestFields p _ _ => "parse manifest fields " ++ p.shown
  | .noParent p => p.shown ++ " has no parent directory"
  | .createParent p _ => "create " ++ p.shown
  | .stage p _ => "stage " ++ p.shown
  | .write p _ => "write " ++ p.shown
  | .flush p _ => "flush " ++ p.shown
  | .publish p _ => "publish " ++ p.shown

end Failure
end Storyboard
