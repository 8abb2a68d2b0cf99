import Storyboard.Files.Publish
import Storyboard.Json.Printer
import Storyboard.Manifest

/-! # Artifacts

An artifact is the record of one scenario run: its steps, extracted or taken from
a manifest, and its video. It is written as a JSON object with the members in a
fixed order, absent ones left out.
-/
namespace Storyboard

open Files (Disk Path)

/-- The steps of an artifact have exactly one source. -/
inductive StepSource
  | extraction (steps : List Step)
  | manifest (steps : Json)
deriving Repr

namespace StepSource

def count : StepSource → Nat
  | .extraction steps => steps.length
  | .manifest steps => steps.itemCount

def name : StepSource → String
  | .extraction _ => "extraction"
  | .manifest _ => "manifest"

def toJson : StepSource → Json
  | .extraction steps => .array (steps.map Step.toJson)
  | .manifest steps => steps

end StepSource

structure Artifact where
  scenarioId : String
  title : String
  steps : StepSource
  videoPath : Option String
  rawVideoPath : Option String
deriving Repr

namespace Artifact

def ofExtraction (scenarioId title : String) (steps : List Step) : Artifact :=
  ⟨scenarioId, title, .extraction steps, none, none⟩

def ofManifest (scenarioId title : String) (m : Manifest) : Artifact :=
  ⟨scenarioId, title, .manifest m.steps, m.videoPath, m.rawVideoPath⟩

def toJson (a : Artifact) : Json :=
  .object ([("scenarioId", .text a.scenarioId), ("title", .text a.title),
      ("steps", a.steps.toJson)] ++
    Step.optionalMember "videoPath" (a.videoPath.map .text) ++
    Step.optionalMember "rawVideoPath" (a.rawVideoPath.map .text))

inductive Offer
  /-- Nothing was offered. -/
  | absent
  | alreadySet (candidate : String)
  | missing (candidate : String)
  | taken (candidate : String)
deriving DecidableEq, Repr

def hasVideo (a : Artifact) : Bool := a.videoPath.any fun p => !p.isEmpty

/-- A video is taken if the artifact has none and the path leads somewhere. -/
def offer (d : Disk) (a : Artifact) (candidate : Option String) : Offer :=
  match candidate with
  | none => .absent
  | some c =>
    if c.isEmpty then .absent
    else if a.hasVideo then .alreadySet c
    else if d.pathExists c then .taken c
    else .missing c

/-- Uses an offered video for both video paths, as it was given. The answer says
whether it was taken. -/
def backfill (d : Disk) (a : Artifact) (candidate : Option String) : Artifact × Bool :=
  match a.offer d candidate with
  | .taken c => ({ a with videoPath := some c, rawVideoPath := some c }, true)
  | _ => (a, false)

def Offer.journal : Offer → Journal
  | .absent => []
  | .alreadySet c => [.videoAlreadySet c]
  | .missing c => [.videoMissing c]
  | .taken c => [.videoTaken c]

def bytes (a : Artifact) : ByteArray := a.toJson.pretty.toUTF8

def write (d : Disk) (path : Path) (a : Artifact) : Disk × Logged Unit :=
  match d.publish path a.bytes with
  | (d, .error e) => (d, .fail e)
  | (d, .ok _) => (d, .note (.artifactWritten path a.steps.count a.steps.name))

end Artifact
end Storyboard
