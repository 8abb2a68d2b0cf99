import Storyboard.Command
import Storyboard.Time.ZoneText

/-! # Running the command

The entries that the paths of a command line lead to are read from the real disk,
the command runs on them, and the entries that it changed are written back. Files
are staged beside their destination there too.
-/
namespace Storyboard.Command

open Files (Disk Entry Location Path Segment)

def kindOf (name : String) : IO (Option IO.FS.FileType) := do
  let here ← IO.currentDir
  try
    return some (← (here / name).symlinkMetadata).type
  catch _ => return none

def targetOf (name : String) : IO (Option Path) := do
  try
    return some ((← IO.FS.realPath name).toString : String)
  catch _ => return none

/-- Notes the entries along some segments. A link that leads nowhere is noted as a
link to itself. -/
def survey (withContent : Bool) : Nat → Disk → Location → List Segment → IO Disk
  | 0, d, _, _ => return d
  | _, d, _, [] => return d
  | n + 1, d, loc, .here :: rest => survey withContent n d loc rest
  | n + 1, d, loc, .slash :: rest => survey withContent n d loc rest
  | n + 1, d, loc, .up :: rest => survey withContent n d loc.dropLast rest
  | n + 1, d, loc, .name s :: rest => do
    let place : Location := loc ++ [s]
    match ← kindOf place.toPath.shown with
    | none => return d
    | some .dir => survey withContent n (d.put place .directory) place rest
    | some .symlink =>
      match ← targetOf place.toPath.shown with
      | some target =>
        survey withContent n (d.put place (.link target)) [] (target.segments ++ rest)
      | none => return d.put place (.link ⟨s⟩)
    | some _ =>
      let content ←
        if withContent then IO.FS.readBinFile place.toPath.shown else pure ByteArray.empty
      return d.put place (.file content)

def pathsOf (args : Arguments) : List (Path × Bool) :=
  [(args.artifactsJson, false), (args.videoPath.getD "", false), (args.outputDir, false),
   (args.manifestPath.getD (args.outputDir.join Locations.manifestName), true),
   (args.outputXml, true)]

def surveyAll (args : Arguments) : IO Disk := do
  let here : Path := (← IO.currentDir).toString
  let names := here.segments.map Segment.bytes
  let start ← survey false 1000 { entries := [], here := names } [] here.segments
  (pathsOf args).foldlM
    (fun d (p, withContent) => survey withContent 1000 d (Disk.startOf p names) p.segments) start

def commit (before after : Disk) : IO Unit :=
  after.entries.reverse.forM fun (loc, e) => do
    if before.entryAt loc != some e then
      match e with
      | .directory => IO.FS.createDir loc.toPath.shown
      | .file content =>
        let staged : Location := loc.dropLast ++ [Files.stagedName (loc.getLast?.getD []) 0]
        IO.FS.writeBinFile staged.toPath.shown content
        IO.FS.rename staged.toPath.shown loc.toPath.shown
      | _ => pure ()

end Storyboard.Command

open Storyboard in
def main (arguments : List String) : IO UInt32 := do
  let zone := ((← IO.getEnv "TZ").bind Time.Zone.read?).getD Time.Zone.utc
  let filterText ← IO.getEnv "RUST_LOG"
  let before ←
    match Arguments.read arguments with
    | .ok args => Command.surveyAll args
    | .error _ => pure { entries := [], here := [] }
  let (after, exit) := Command.run before zone filterText arguments
  Command.commit before after
  (← IO.getStdout).putStr exit.output
  (← IO.getStderr).putStr exit.errors
  return exit.code.toUInt32
