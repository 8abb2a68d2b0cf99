import Storyboard.Failure
import Storyboard.Files.Resolve

/-! # Locations of a run

The four paths of a run, made absolute, and the layout below the output
directory.
-/
namespace Storyboard

open Files (Disk Path)

structure Locations where
  outputXml : Path
  outputDir : Path
  artifactsJson : Path
  manifest : Path
deriving DecidableEq, Repr

namespace Locations

def manifestName : Path := "unity-manifest.json"

def resolvePath (d : Disk) (p : Path) : Except Failure Path :=
  match d.resolve p with
  | .ok q => .ok q
  | .error f => .error (.resolve p f)

/-- Makes the paths of a run absolute. The output directory comes first, and the
manifest lies below it unless its path is given. -/
def resolve (d : Disk) (outputXml outputDir artifactsJson : Path) (manifest : Option Path) :
    Except Failure Locations := do
  let outputDir ← resolvePath d outputDir
  let manifest ←
    match manifest with
    | some p => resolvePath d p
    | none => .ok (outputDir.join manifestName)
  let outputXml ← resolvePath d outputXml
  let artifactsJson ← resolvePath d artifactsJson
  return { outputXml, outputDir, artifactsJson, manifest }

def screenshotsDir (l : Locations) : Path := l.outputDir.join "screenshots"

def screenshot (l : Locations) (stepId : String) : Path := l.screenshotsDir.join (stepId ++ ".png")

end Locations
end Storyboard
