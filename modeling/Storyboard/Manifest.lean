import Storyboard.Journal
import Storyboard.Json.Reader

/-! # Video manifests

A manifest is a JSON object that some other tool left beside a run. Its steps take
the place of extracted steps and are passed on as they are.
-/
namespace Storyboard

open Files (Disk Path)

structure Manifest where
  steps : Json
  videoPath : Option String
  rawVideoPath : Option String
deriving Repr

namespace Manifest

/-- A member that is a text, absent or null. The first answer is `none` for a
member of another type. -/
def textMember? (key : String) (j : Json) : Option (Option String) :=
  match j.member? key with
  | none => some none
  | some .null => some none
  | some (.text s) => some (some s)
  | some _ => none

/-- The steps of a manifest; an empty array if they are absent or null. -/
def stepsOf (j : Json) : Json :=
  match j.member? "steps" with
  | none => .array []
  | some .null => .array []
  | some steps => steps

def ofJson? (j : Json) : Option Manifest :=
  match textMember? "videoPath" j, textMember? "rawVideoPath" j with
  | some videoPath, some rawVideoPath => some ⟨stepsOf j, videoPath, rawVideoPath⟩
  | _, _ => none

def ofBytes (path : Path) (bytes : ByteArray) : Except Failure Manifest :=
  match Json.ofBytes? bytes with
  | none => .error (.malformedManifest path bytes)
  | some (.object members) =>
    match ofJson? (.object members) with
    | some m => .ok m
    | none =>
      .error (.manifestFields path ((members.lookup "rawVideoPath").map Json.kind)
        ((members.lookup "videoPath").map Json.kind))
  | some _ => .error (.manifestNotObject path)

def load (d : Disk) (path : Path) : Logged (Option Manifest) :=
  if d.pathExists path then
    match d.readBytes path with
    | .error f => .fail (.readManifest path f)
    | .ok bytes =>
      match ofBytes path bytes with
      | .ok m => .pure (some m)
      | .error e => .fail e
  else ⟨[.noManifest path], .ok none⟩

end Manifest
end Storyboard
