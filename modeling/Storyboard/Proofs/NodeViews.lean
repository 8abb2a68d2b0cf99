import Storyboard.Proofs.KeywordOrder
import Storyboard.Proofs.Lists

/-! # What a result takes from a node

A result is read from a document in several passes. Of a node they all take little: its
name, its attributes, its text, the arguments that it holds and the keywords that end in
it. What they take from an element depends on what they take from its children and on
nothing else about them. So a node may be replaced, at any depth, by one of which the
same is taken.
-/
namespace Storyboard

open Xml (Node)

namespace Xml.Node

def base? : Node → Option String
  | .element name _ _ => some name.base
  | _ => none

def text? : Node → Option String
  | .text content => some content
  | _ => none

theorem isNamed_eq (base : String) (n : Node) : n.isNamed base = (n.base? == some base) := by
  cases n <;> rfl

def keywordEnds (n : Node) : List Node :=
  RunResult.keywordElements n ++ if n.isNamed "kw" then [n] else []

/-- The node with another one at an address. An address outside leaves it as it is. -/
def replaceAt : Node → Address → Node → Node
  | _, [], new => new
  | .element name attributes children, i :: rest, new =>
    .element name attributes (children.modify i (·.replaceAt rest new))
  | n, _ :: _, _ => n

end Xml.Node

/-- What a result takes from a node. -/
structure View where
  base : Option String
  attributes : List Xml.Attribute
  text : Option String
  arguments : List String
  keywords : List Keyword

def Xml.Node.view (zone : Time.Zone) (n : Node) : View where
  base := n.base?
  attributes := n.attributes
  text := n.text?
  arguments := n.argumentTexts
  keywords := n.keywordEnds.map (Keyword.ofElement zone)

/-! ## Children by their views -/

theorem RunResult.keywordElementsOf_eq_flatMap (ns : List Node) :
    keywordElementsOf ns = ns.flatMap Node.keywordEnds := by
  induction ns with
  | nil => rfl
  | cons n ns ih =>
    rw [keywordElementsOf, ih, List.flatMap_cons]
    rfl

theorem RunResult.keywordElements_eq_flatMap (n : Node) :
    keywordElements n = n.children.flatMap Node.keywordEnds := by
  cases n with
  | element name attributes children => exact keywordElementsOf_eq_flatMap children
  | text => rfl
  | comment => rfl
  | instruction => rfl

section

variable (zone : Time.Zone) (name : Xml.Name) (attributes : List Xml.Attribute) (ns : List Node)

namespace Xml.Node

theorem argumentsOf_eq_views :
    Keyword.argumentsOf ns = (ns.map (view zone)).flatMap View.arguments := by
  rw [Keyword.argumentsOf_eq, List.flatMap_map]
  rfl

theorem keywords_eq_views :
    (ns.flatMap keywordEnds).map (Keyword.ofElement zone) =
      (ns.map (view zone)).flatMap View.keywords := by
  rw [List.map_flatMap, List.flatMap_map]
  rfl

theorem leadingText_eq_views : leadingText (.element name attributes ns) =
    ((ns.map (view zone)).head?.bind View.text).getD "" := by
  cases ns with
  | nil => rfl
  | cons n ns => cases n <;> rfl

theorem attributes_child?_eq_views (base : String) (n : Node) :
    (n.child? base).map Node.attributes =
      ((n.children.map (view zone)).find? (·.base == some base)).map View.attributes := by
  have hnamed : isNamed base = (fun v : View => v.base == some base) ∘ view zone :=
    funext (isNamed_eq base)
  rw [child?, List.find?_map, Option.map_map, hnamed]
  rfl

theorem argumentTexts_of_isNamed {n : Node} (h : n.isNamed "arg" = true) :
    n.argumentTexts = [n.leadingText] := by
  have hother : n.isNamed "arguments" = false := by
    rw [isNamed_eq, beq_iff_eq] at h
    rw [isNamed_eq, h]
    decide
  rw [argumentTexts, Keyword.unwrap, hother, if_neg Bool.false_ne_true, List.filter_cons_of_pos h]
  rfl

theorem listedArguments_eq_views : listedArguments ns =
    ((ns.map (view zone)).filter (·.base == some "arg")).flatMap View.arguments := by
  have hnamed : isNamed "arg" = (fun v : View => v.base == some "arg") ∘ view zone :=
    funext (isNamed_eq "arg")
  rw [List.filter_map, List.flatMap_map, ← hnamed, listedArguments, List.map_eq_flatMap]
  exact List.flatMap_congr fun n hn => (argumentTexts_of_isNamed (List.mem_filter.mp hn).2).symm

end Xml.Node

end

/-! ## Elements by the views of their children -/

section

variable {zone : Time.Zone} {ns ns' : List Node}

namespace Xml.Node

theorem attribute?_congr {n n' : Node} (h : n.attributes = n'.attributes) (base : String) :
    n.attribute? base = n'.attribute? base := by
  rw [attribute?, attribute?, h]

theorem bind_attribute?_congr {o o' : Option Node}
    (h : o.map Node.attributes = o'.map Node.attributes) (base : String) :
    o.bind (·.attribute? base) = o'.bind (·.attribute? base) := by
  have hbind : ∀ found : Option Node, found.bind (·.attribute? base) =
      (found.map Node.attributes).bind fun l =>
        (l.find? fun a => a.name == ⟨none, base⟩).map (·.value) := by
    intro found
    cases found <;> rfl
  rw [hbind, hbind, h]

end Xml.Node

theorem Keyword.ofElement_congr {e e' : Node} (hattributes : e.attributes = e'.attributes)
    (hstatus : (e.child? "status").map Node.attributes = (e'.child? "status").map Node.attributes)
    (harguments : argumentsOf e.children = argumentsOf e'.children) :
    ofElement zone e = ofElement zone e' := by
  unfold ofElement
  rw [Node.attribute?_congr hattributes, harguments, Node.bind_attribute?_congr hstatus]
  cases hfound : e.child? "status" with
  | none =>
    rw [hfound, Option.map_none, eq_comm, Option.map_eq_none_iff] at hstatus
    rw [hstatus]
  | some status =>
    rw [hfound, Option.map_some, eq_comm, Option.map_eq_some_iff] at hstatus
    obtain ⟨status', hfound', hsame⟩ := hstatus
    have htiming : Timing.ofStatus zone status' = Timing.ofStatus zone status := by
      unfold Timing.ofStatus Node.attribute?
      rw [hsame]
    simp only [hfound', htiming]

namespace Xml.Node

/-- Of two elements with one name and the same attributes the same is taken if they hold
the same arguments and keywords and, being keywords, are the same. -/
theorem view_element {name : Name} {attributes : List Attribute}
    (harguments : argumentTexts (.element name attributes ns) =
      argumentTexts (.element name attributes ns'))
    (hbelow : (ns.flatMap keywordEnds).map (Keyword.ofElement zone) =
      (ns'.flatMap keywordEnds).map (Keyword.ofElement zone))
    (hitself : Keyword.ofElement zone (.element name attributes ns) =
      Keyword.ofElement zone (.element name attributes ns')) :
    view zone (.element name attributes ns) = view zone (.element name attributes ns') := by
  have hnamed : isNamed "kw" (.element name attributes ns') =
      isNamed "kw" (.element name attributes ns) := rfl
  simp only [view, View.mk.injEq]
  refine ⟨rfl, rfl, rfl, harguments, ?_⟩
  rw [keywordEnds, keywordEnds, RunResult.keywordElements_eq_flatMap,
    RunResult.keywordElements_eq_flatMap, List.map_append, List.map_append, hnamed]
  simp only [children]
  rw [hbelow]
  by_cases hkeyword : isNamed "kw" (.element name attributes ns) = true
  · rw [if_pos hkeyword, if_pos hkeyword, List.map_singleton, List.map_singleton, hitself]
  · rw [if_neg hkeyword, if_neg hkeyword]

theorem view_element_congr (h : ns.map (view zone) = ns'.map (view zone)) (name : Name)
    (attributes : List Attribute) :
    view zone (.element name attributes ns) = view zone (.element name attributes ns') := by
  refine view_element ?_ ?_ (Keyword.ofElement_congr ?_ ?_ ?_)
  · rw [argumentTexts_element, argumentTexts_element, leadingText_eq_views zone,
      listedArguments_eq_views zone, h, ← leadingText_eq_views zone,
      ← listedArguments_eq_views zone]
  · rw [keywords_eq_views, keywords_eq_views, h]
  · rfl
  · rw [attributes_child?_eq_views zone, attributes_child?_eq_views zone]
    simp only [children, h]
  · simp only [children]
    rw [argumentsOf_eq_views zone, argumentsOf_eq_views zone, h]

/-- Of a node the same is taken as before if this holds for what has been replaced in it. -/
theorem view_replaceAt {root e e' : Node} {a : Address} (h : root.at? a = some e)
    (hview : view zone e' = view zone e) : view zone (root.replaceAt a e') = view zone root := by
  induction a generalizing root with
  | nil =>
    cases h
    exact hview
  | cons i a ih =>
    obtain ⟨child, hchild, he⟩ := Option.bind_eq_some_iff.mp h
    cases root with
    | element name attributes ns =>
      exact view_element_congr (List.map_modify_of_getElem? hchild (ih he)) name attributes
    | text => cases hchild
    | comment => cases hchild
    | instruction => cases hchild

end Xml.Node

namespace RunResult

/-- A result is read from what is taken from the children of the root. -/
theorem ofTree_congr {root root' : Node}
    (h : root.children.map (Node.view zone) = root'.children.map (Node.view zone)) :
    ofTree zone root = ofTree zone root' := by
  have hsuite : suiteNameOf root = suiteNameOf root' := by
    have hattributes : (root.child? "suite").map Node.attributes =
        (root'.child? "suite").map Node.attributes := by
      rw [Node.attributes_child?_eq_views zone, Node.attributes_child?_eq_views zone, h]
    rw [suiteNameOf, suiteNameOf, Node.bind_attribute?_congr hattributes]
  rw [ofTree, ofTree, hsuite, keywordElements_eq_flatMap, keywordElements_eq_flatMap,
    Node.keywords_eq_views, Node.keywords_eq_views, h]

theorem ofTree_replaceAt {root e e' : Node} {a : Xml.Address} (ha : a ≠ [])
    (h : root.at? a = some e) (hview : e'.view zone = e.view zone) :
    ofTree zone (root.replaceAt a e') = ofTree zone root := by
  cases a with
  | nil => exact absurd rfl ha
  | cons i a =>
    obtain ⟨child, hchild, he⟩ := Option.bind_eq_some_iff.mp h
    cases root with
    | element name attributes ns =>
      exact ofTree_congr (List.map_modify_of_getElem? hchild (Node.view_replaceAt he hview))
    | text => cases hchild
    | comment => cases hchild
    | instruction => cases hchild

end RunResult
end
end Storyboard
