import Storyboard.Failure
import Storyboard.Step
import Storyboard.Text.Quoted

/-! # Journals

A run notes what it does as events. An event has a level, a target, which names
the part of the program that notes it, and one line of text with its fields. Texts
are quoted in a line; paths, identifiers and titles of steps are not.
-/
namespace Storyboard

open Files (Path)

inductive Level
  | debug
  | info
  | warning
  | error
  | off
deriving DecidableEq, Repr

namespace Level

def rank : Level → Nat
  | .debug => 0
  | .info => 1
  | .warning => 2
  | .error => 3
  | .off => 4

def name : Level → String
  | .debug => "DEBUG"
  | .info => "INFO"
  | .warning => "WARN"
  | .error => "ERROR"
  | .off => "OFF"

end Level

inductive Event
  | resultLoaded (suite : String) (keywords : Nat)
  | noManifest (path : Path)
  | manifestUsed (path : Path)
  | stepExtracted (id title : String)
  | stepsExtracted (count : Nat)
  | videoAlreadySet (candidate : String)
  | videoMissing (candidate : String)
  | videoTaken (video : String)
  | artifactWritten (path : Path) (steps : Nat) (source : String)
deriving DecidableEq, Repr

namespace Event

def level : Event → Level
  | .resultLoaded _ _ => .info
  | .noManifest _ => .debug
  | .manifestUsed _ => .info
  | .stepExtracted _ _ => .debug
  | .stepsExtracted _ => .info
  | .videoAlreadySet _ => .debug
  | .videoMissing _ => .debug
  | .videoTaken _ => .info
  | .artifactWritten _ _ _ => .info

def target : Event → String
  | .resultLoaded _ _ => "robot_artifacts::output_xml"
  | .noManifest _ => "robot_artifacts::manifest"
  | .manifestUsed _ => "robot_artifacts::workflow"
  | .stepExtracted _ _ => "robot_artifacts::steps"
  | .stepsExtracted _ => "robot_artifacts::workflow"
  | .videoAlreadySet _ => "robot_artifacts::artifact"
  | .videoMissing _ => "robot_artifacts::artifact"
  | .videoTaken _ => "robot_artifacts::workflow"
  | .artifactWritten _ _ _ => "robot_artifacts::artifact"

/-- The names of the fields of an event. The words in front of them are a field
too. -/
def fields : Event → List String
  | .resultLoaded _ _ => ["message", "suite", "keywords"]
  | .noManifest _ => ["message", "path"]
  | .manifestUsed _ => ["message", "path"]
  | .stepExtracted _ _ => ["message", "id", "title"]
  | .stepsExtracted _ => ["message", "steps"]
  | .videoAlreadySet _ => ["message", "candidate"]
  | .videoMissing _ => ["message", "candidate"]
  | .videoTaken _ => ["message", "video"]
  | .artifactWritten _ _ _ => ["message", "path", "steps", "source"]

def message : Event → String
  | .resultLoaded suite keywords =>
    "result tree loaded suite=" ++ Text.quoted suite ++ " keywords=" ++ toString keywords
  | .noManifest path => "no manifest path=" ++ path.shown
  | .manifestUsed path => "using video manifest steps path=" ++ path.shown
  | .stepExtracted id title => "doc step extracted id=" ++ id ++ " title=" ++ title
  | .stepsExtracted count => "extracted doc steps steps=" ++ toString count
  | .videoAlreadySet candidate =>
    "video already set; backfill skipped candidate=" ++ Text.quoted candidate
  | .videoMissing candidate =>
    "video candidate missing; backfill skipped candidate=" ++ Text.quoted candidate
  | .videoTaken video =>
    "video path taken from --video-path video=Some(" ++ Text.quoted video ++ ")"
  | .artifactWritten path steps source =>
    "artifact written path=" ++ path.shown ++ " steps=" ++ toString steps ++ " source=" ++
      Text.quoted source

def line (e : Event) : String := e.level.name ++ " " ++ e.message

end Event

abbrev Journal := List Event

def Journal.atLeast (j : Journal) (level : Level) : Journal :=
  j.filter fun e => level.rank ≤ e.level.rank

structure Logged (α : Type) where
  journal : Journal
  outcome : Except Failure α

namespace Logged

variable {α β : Type}

def pure (a : α) : Logged α := ⟨[], .ok a⟩

def note (e : Event) : Logged Unit := ⟨[e], .ok ()⟩

def fail (f : Failure) : Logged α := ⟨[], .error f⟩

def ofExcept (r : Except Failure α) : Logged α := ⟨[], r⟩

def bind (x : Logged α) (f : α → Logged β) : Logged β :=
  match x.outcome with
  | .error e => ⟨x.journal, .error e⟩
  | .ok a => ⟨x.journal ++ (f a).journal, (f a).outcome⟩

instance : Monad Logged where
  pure := pure
  bind := bind

end Logged
end Storyboard
