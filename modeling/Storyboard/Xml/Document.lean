import Storyboard.Xml.Node
import Storyboard.Xml.Token

/-! # Reading documents

The tokens of a document are read by a machine whose stack holds the elements
that are still open. Namespaces are resolved where a tag opens: a declaration
holds for its own tag and for all that it encloses. There are no document types,
so only the five named references exist.
-/
namespace Storyboard.Xml

/-! ## Namespaces -/

/-- The namespaces in force, the innermost declaration first. The empty qualifier
has the namespace of unqualified elements. -/
abbrev Scope := List (String × String)

def xmlSpace : String := "http://www.w3.org/XML/1998/namespace"

def declarationSpace : String := "http://www.w3.org/2000/xmlns/"

def RawName.declared? (name : RawName) : Option String :=
  if name.qualifier = "xmlns" then some name.base
  else if name.base = "xmlns" then some ""
  else none

def mayDeclare (qualifier space : String) : Bool :=
  space != declarationSpace && (qualifier == "xml") == (space == xmlSpace)

/-- The declarations among the attributes of a tag. A qualifier is declared at
most once. -/
def declarations? : List (RawName × String) → Option Scope
  | [] => some []
  | (name, value) :: rest =>
    match declarations? rest with
    | none => none
    | some scope =>
      match name.declared? with
      | none => some scope
      | some qualifier =>
        if !mayDeclare qualifier value then none
        else if qualifier = "xml" then some scope
        else if qualifier ≠ "" ∧ (scope.lookup qualifier).isSome then none
        else some ((qualifier, value) :: scope)

/-- The namespace of a qualifier; the first answer is `none` for a qualifier that
nobody declared. -/
def Scope.space? (scope : Scope) (qualifier : String) : Option (Option String) :=
  match scope.lookup qualifier with
  | some space => some (some space)
  | none => if qualifier = "" then some none else none

/-- An attribute without a qualifier is in no namespace. The qualifier `xml` is
known for attributes only. -/
def Scope.attribute? (scope : Scope) (name : RawName) (value : String) : Option Attribute :=
  if name.qualifier = "" then some ⟨⟨none, name.base⟩, value⟩
  else if name.qualifier = "xml" then some ⟨⟨some xmlSpace, name.base⟩, value⟩
  else (scope.space? name.qualifier).map fun space => ⟨⟨space, name.base⟩, value⟩

def Scope.attributes? (scope : Scope) : List (RawName × String) → Option (List Attribute)
  | [] => some []
  | (name, value) :: rest =>
    match scope.attributes? rest with
    | none => none
    | some more =>
      if name.declared?.isSome then some more
      else
        match scope.attribute? name value with
        | none => none
        | some a => if more.any (·.name == a.name) then none else some (a :: more)

/-! ## The machine -/

/-- An element that is still open, with its children so far, the last one
first. -/
structure OpenElement where
  tag : RawName
  name : Name
  attributes : List Attribute
  scope : Scope
  before : List Node
deriving Repr

def OpenElement.close (e : OpenElement) : Node := .element e.name e.attributes e.before.reverse

structure Builder where
  stack : List OpenElement
  root : Option Node
deriving Repr

namespace Builder

def start : Builder := ⟨[], none⟩

/-- Adds a node to the innermost open element. Outside of all elements only one
element may stand. -/
def add (b : Builder) (n : Node) : Option Builder :=
  match b.stack with
  | e :: stack => some { b with stack := { e with before := n :: e.before } :: stack }
  | [] =>
    match n, b.root with
    | .element _ _ _, none => some { b with root := some n }
    | .comment, _ => some b
    | .instruction, _ => some b
    | _, _ => none

def addText (b : Builder) (content : List Char) : Option Builder :=
  match b.stack with
  | e :: stack =>
    let before :=
      match e.before with
      | .text s :: before => .text (s ++ String.ofList content) :: before
      | before => .text (String.ofList content) :: before
    some { b with stack := { e with before := before } :: stack }
  | [] => none

def scope (b : Builder) : Scope :=
  match b.stack with
  | e :: _ => e.scope
  | [] => []

def element? (b : Builder) (tag : RawName) (raw : List (RawName × String)) :
    Option OpenElement := do
  if tag.qualifier = "xmlns" then none
  let declared ← declarations? raw
  let scope := declared ++ b.scope
  let attributes ← scope.attributes? raw
  let space ← scope.space? tag.qualifier
  return ⟨tag, ⟨space, tag.base⟩, attributes, scope, []⟩

def step (b : Builder) : Token → Option Builder
  | .comment => b.add .comment
  | .instruction => b.add .instruction
  | .chars raw =>
    if b.stack.isEmpty then (if raw.all isSpace then some b else none)
    else (textContent? raw).bind b.addText
  | .verbatim raw => b.addText (lineEnds true raw)
  | .openTag tag raw closed =>
    match b.element? tag raw with
    | none => none
    | some e =>
      if closed then b.add e.close
      else if b.stack.isEmpty && b.root.isSome then none
      else some { b with stack := e :: b.stack }
  | .closeTag tag =>
    match b.stack with
    | e :: stack => if e.tag = tag then { b with stack := stack }.add e.close else none
    | [] => none

def run : Builder → List Token → Option Builder
  | b, [] => some b
  | b, t :: ts =>
    match b.step t with
    | none => none
    | some b => run b ts

def result? (b : Builder) : Option Node := if b.stack.isEmpty then b.root else none

end Builder

/-! ## Documents -/

def skipGap (cs : List Char) : Option (List Char) :=
  if cs.head?.any isSpace || ['?', '>'].isPrefixOf cs || cs.isEmpty then some (skipSpace cs)
  else none

def skipDeclared (word : String) (cs : List Char) : Option (List Char) :=
  if word.toList.isPrefixOf cs then (readRawAttribute cs).map (·.2.2) else some cs

/-- Drops the rest of a declaration: a version, then an optional encoding, then an
optional standalone mark. Their values do not matter. -/
def skipDeclaration (cs : List Char) : Option (List Char) := do
  let cs ← skipGap cs
  if !"version".toList.isPrefixOf cs then none
  let cs ← skipDeclared "version" cs
  let cs ← skipGap cs
  let cs ←
    if "encoding".toList.isPrefixOf cs then (skipDeclared "encoding" cs).bind skipGap else some cs
  let cs ← skipDeclared "standalone" cs
  Text.after? ['?', '>'] (skipSpace cs)

def body? (cs : List Char) : Option (List Char) :=
  let cs := if cs.head? == some (Char.ofNat 0xFEFF) then cs.drop 1 else cs
  if "<?xml ".toList.isPrefixOf cs then skipDeclaration (cs.drop 5) else some cs

def read? (text : String) : Option Node := do
  let ts ← tokens? (← body? text.toList)
  let b ← Builder.start.run ts
  b.result?

end Storyboard.Xml
