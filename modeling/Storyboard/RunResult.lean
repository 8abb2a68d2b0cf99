import Storyboard.Keyword
import Storyboard.Xml.Document

/-! # Results of a run

The result tree of a run holds the name of its top suite and all keywords, in the
order in which their elements end: nested keywords come before the keyword that
encloses them. The root element itself is no keyword.
-/
namespace Storyboard

open Xml (Node)

structure RunResult where
  suiteName : Option String
  keywords : List Keyword
deriving DecidableEq, Repr

namespace RunResult

mutual

/-- The elements below a node that record keywords, in the order of their ends. -/
def keywordElements : Node → List Node
  | .element _ _ children => keywordElementsOf children
  | _ => []

def keywordElementsOf : List Node → List Node
  | [] => []
  | child :: rest =>
    keywordElements child ++ (if child.isNamed "kw" then [child] else []) ++ keywordElementsOf rest

end

/-- The name of the first suite below the root, unless it is empty. -/
def suiteNameOf (root : Node) : Option String :=
  ((root.child? "suite").bind (·.attribute? "name")).filter fun name => !name.isEmpty

def ofTree (zone : Time.Zone) (root : Node) : RunResult :=
  ⟨suiteNameOf root, (keywordElements root).map (Keyword.ofElement zone)⟩

def read? (zone : Time.Zone) (text : String) : Option RunResult :=
  (Xml.read? text).map (ofTree zone)

end RunResult
end Storyboard
