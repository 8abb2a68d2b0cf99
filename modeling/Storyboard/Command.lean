import Storyboard.Conversion
import Storyboard.Journal.Filter

/-! # The command

The command reads its arguments, runs a conversion and ends with an exit code: 0
for a finished conversion and for answers about the command itself, 2 for a
command line that describes no run, 1 for any other failure. Events and problems
go to the error stream. A filter that would cut a character ends the command with
101 before anything else.
-/
namespace Storyboard.Command

open Files (Disk)

def versionLine : String := "robot-artifacts 0.1.0\n"

def flagHelp : Flag → String
  | .outputXml => "Result file of the run"
  | .outputDir => "Output directory of the run; screenshots are expected below <DIR>/screenshots"
  | .artifactsJson => "Destination of the artifacts JSON"
  | .suiteId => "Scenario id to use as it is, instead of one made from the suite name"
  | .videoPath => "Video file to use if the manifest gives none"
  | .manifestPath => "Video manifest [default: <output-dir>/unity-manifest.json]"

def helpText : String :=
  "Convert the result of a test run into run-artifacts JSON\n\n" ++
    "Usage: robot-artifacts [OPTIONS] " ++ " ".intercalate (Flag.required.map Flag.display) ++
    "\n\nOptions:\n" ++
    String.join (Flag.all.map fun f => "      " ++ f.display ++ "  " ++ flagHelp f ++ "\n") ++
    "  -h, --help  Print help\n  -V, --version  Print version\n"

def refusalText : Refusal → String
  | .help => helpText
  | .version => versionLine
  | .needlessValue switch => "error: unexpected value for '" ++ switch ++ "'\n"
  | .badValue flag => "error: a value is required for '" ++ flag.display ++ "'\n"
  | .unknown argument => "error: unexpected argument '" ++ argument ++ "'\n"
  | .repeated flag => "error: the argument '" ++ flag.display ++ "' is used twice\n"
  | .missing flags =>
    "error: missing arguments: " ++ ", ".intercalate (flags.map Flag.display) ++ "\n"

structure Exit where
  code : UInt8
  output : String
  errors : String
deriving DecidableEq, Repr

def ofRefusal (r : Refusal) : Exit :=
  match r with
  | .help => ⟨0, refusalText r, ""⟩
  | .version => ⟨0, refusalText r, ""⟩
  | r => ⟨2, "", refusalText r⟩

def journalText (filter : Filter) (j : Journal) : String :=
  String.join ((j.shown filter).map fun e => e.line ++ "\n")

def ofOutcome (filter : Filter) (x : Logged Unit) : Exit :=
  match x.outcome with
  | .ok _ => ⟨0, "", journalText filter x.journal⟩
  | .error e => ⟨1, "", journalText filter x.journal ++ "Error: " ++ e.message ++ "\n"⟩

def brokenFilter : Exit := ⟨101, "", "error: the filter cuts a character\n"⟩

/-- Runs the command on a disk, with the text of a filter if there is one. -/
def run (d : Disk) (zone : Time.Zone) (filterText : Option String) (arguments : List String) :
    Disk × Exit :=
  match Filter.ofText filterText with
  | none => (d, brokenFilter)
  | some filter =>
    match Arguments.read arguments with
    | .error r => (d, ofRefusal r)
    | .ok args =>
      let (d, x) := Conversion.run d zone args
      (d, ofOutcome filter x)

end Storyboard.Command
