import Storyboard.Arguments
import Storyboard.Artifact
import Storyboard.RunResult
import Storyboard.Slug

/-! # Conversions

A conversion turns the result tree of a run into an artifact. It first reads all
that it needs and decides what to write; only then does it change the disk.
-/
namespace Storyboard

open Files (Disk Path)

def RunResult.load (d : Disk) (zone : Time.Zone) (path : Path) : Logged RunResult :=
  match d.readText path with
  | .error f => .fail (.readResult path f)
  | .ok text =>
    match RunResult.read? zone text with
    | none => .fail (.malformedResult (some path) text)
    | some result =>
      ⟨[.resultLoaded (result.suiteName.getD "") result.keywords.length], .ok result⟩

namespace Conversion

def defaultTitle : String := "Robot Suite"

def titleOf (result : RunResult) : String := result.suiteName.getD defaultTitle

/-- The identifier of a scenario: as given, unless it is empty, else the slug of
the title. -/
def scenarioIdOf (given : Option String) (title : String) : String :=
  (given.filter fun id => !id.isEmpty).getD (Slug.ofTitle title)

/-- The artifact before a video is offered. A manifest takes precedence over the
keywords. -/
def assemble (zone : Time.Zone) (locations : Locations) (scenarioId title : String)
    (keywords : List Keyword) (manifest : Option Manifest) : Logged Artifact :=
  match manifest with
  | some m => ⟨[.manifestUsed locations.manifest], .ok (.ofManifest scenarioId title m)⟩
  | none =>
    let steps := Step.extract zone locations keywords
    ⟨steps.map (fun s => .stepExtracted s.id s.title) ++ [.stepsExtracted steps.length],
      .ok (.ofExtraction scenarioId title steps)⟩

def offerVideo (d : Disk) (a : Artifact) (candidate : Option String) : Logged Artifact :=
  ⟨(a.offer d candidate).journal, .ok (a.backfill d candidate).1⟩

structure Plan where
  destination : Path
  artifact : Artifact

def plan (d : Disk) (zone : Time.Zone) (args : Arguments) : Logged Plan := do
  let locations ← Logged.ofExcept
    (Locations.resolve d args.outputXml args.outputDir args.artifactsJson args.manifestPath)
  let result ← RunResult.load d zone locations.outputXml
  let title := titleOf result
  let manifest ← Manifest.load d locations.manifest
  let artifact ←
    assemble zone locations (scenarioIdOf args.suiteId title) title result.keywords manifest
  let artifact ← offerVideo d artifact args.videoPath
  return ⟨locations.artifactsJson, artifact⟩

def run (d : Disk) (zone : Time.Zone) (args : Arguments) : Disk × Logged Unit :=
  let planned := plan d zone args
  match planned.outcome with
  | .error e => (d, ⟨planned.journal, .error e⟩)
  | .ok p =>
    let (d, written) := p.artifact.write d p.destination
    (d, ⟨planned.journal ++ written.journal, written.outcome⟩)

end Conversion
end Storyboard
