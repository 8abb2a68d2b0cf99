import Storyboard.Json.Value
import Storyboard.Keyword
import Storyboard.Locations
import Storyboard.Number.Word

/-! # Documented steps

A step is a documented action of a scenario. Steps are extracted from the passing
documentation keywords of a run, which are numbered in their order; the number
names a step whose keyword gives no identifier.
-/
namespace Storyboard

structure Step where
  id : String
  title : String
  imagePath : String
  description : Option String
  startedAtMs : Option Int
  endedAtMs : Option Int
deriving DecidableEq, Repr

namespace Step

def documentationKeywords : List String := ["Doc Web Step", "Doc Desktop Step"]

def isDocumented (k : Keyword) : Bool :=
  k.status == "PASS" && documentationKeywords.contains k.name

/-- An argument of a keyword, unless it is missing or empty. -/
def argument? (k : Keyword) (index : Nat) : Option String :=
  k.arguments[index]?.filter fun s => !s.isEmpty

def fallbackId (ordinal : Nat) : String := "step-" ++ toString ordinal

/-- The end of a step. There is none if it does not fit a word. -/
def endOf (start : Option Int) (elapsed : Int) : Option Int :=
  match start with
  | some s => if Number.Word.fits (s + elapsed) then some (s + elapsed) else none
  | none => none

def ofKeyword (zone : Time.Zone) (locations : Locations) (ordinal : Nat) (k : Keyword) : Step :=
  let id := (argument? k 0).getD (fallbackId ordinal)
  let started := Time.stamp? zone k.startTime
  { id
    title := (argument? k 1).getD id
    imagePath := (locations.screenshot id).shown
    description := argument? k 2
    startedAtMs := started
    endedAtMs := endOf started k.elapsedMs }

/-- The steps of some keywords, given how many have been numbered before. -/
def extractFrom (zone : Time.Zone) (locations : Locations) : Nat → List Keyword → List Step
  | _, [] => []
  | n, k :: rest =>
    if isDocumented k then
      ofKeyword zone locations (n + 1) k :: extractFrom zone locations (n + 1) rest
    else extractFrom zone locations n rest

def extract (zone : Time.Zone) (locations : Locations) (ks : List Keyword) : List Step :=
  extractFrom zone locations 0 ks

def optionalMember (key : String) (value : Option Json) : List (String × Json) :=
  match value with
  | some v => [(key, v)]
  | none => []

def toJson (s : Step) : Json :=
  .object ([("id", .text s.id), ("title", .text s.title), ("imagePath", .text s.imagePath)] ++
    optionalMember "description" (s.description.map .text) ++
    optionalMember "startedAtMs" (s.startedAtMs.map fun n => .number (.integer n)) ++
    optionalMember "endedAtMs" (s.endedAtMs.map fun n => .number (.integer n)))

end Step
end Storyboard
