/-! # Document trees

A document is the tree of its root element. Names are expanded: a local name with
the name of its namespace, if it has one. Comments and processing instructions
keep their place and nothing else.
-/
namespace Storyboard.Xml

structure Name where
  space : Option String
  base : String
deriving DecidableEq, Repr

structure Attribute where
  name : Name
  value : String
deriving DecidableEq, Repr

inductive Node
  | element (name : Name) (attributes : List Attribute) (children : List Node)
  | text (content : String)
  | comment
  | instruction
deriving Repr, Inhabited

namespace Node

def isElement : Node → Bool
  | .element _ _ _ => true
  | _ => false

/-- Whether a node is an element with a local name, in whatever namespace. -/
def isNamed (base : String) : Node → Bool
  | .element name _ _ => name.base == base
  | _ => false

def children : Node → List Node
  | .element _ _ children => children
  | _ => []

def attributes : Node → List Attribute
  | .element _ attributes _ => attributes
  | _ => []

def attribute? (base : String) (n : Node) : Option String :=
  (n.attributes.find? fun a => a.name == ⟨none, base⟩).map (·.value)

/-- The text with which the content of an element starts. -/
def leadingText (n : Node) : String :=
  match n.children with
  | .text content :: _ => content
  | _ => ""

def child? (base : String) (n : Node) : Option Node := n.children.find? (·.isNamed base)

end Node
end Storyboard.Xml
