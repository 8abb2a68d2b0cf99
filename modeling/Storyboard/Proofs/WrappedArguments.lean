import Storyboard.Proofs.NodeViews

/-! # Wrapped arguments

A keyword may hold its arguments directly or wrapped in a list. Wrapping any run of its
children in such a list makes no difference to the result, whatever else is among them: the
arguments stay in their order, the status is still the first one, and keywords inside the
run end as before.
-/
namespace Storyboard

open Xml (Node)

variable {zone : Time.Zone} {name wrapper : Xml.Name} {attributes given : List Xml.Attribute}
  {before run after : List Node}

namespace Xml.Node

theorem argumentTexts_of_keyword (hname : name.base = "kw") (ns : List Node) :
    argumentTexts (.element name attributes ns) = [] := by
  rw [argumentTexts_element, hname]
  rfl

theorem argumentsOf_of_direct (hrun : ∀ n ∈ run, n.isNamed "arguments" = false) :
    Keyword.argumentsOf run = listedArguments run := by
  have hdirect : ∀ n ∈ run, Keyword.unwrap n = [n] := by
    intro n hn
    rw [Keyword.unwrap, hrun n hn, if_neg Bool.false_ne_true]
  rw [Keyword.argumentsOf, List.flatMap_congr hdirect, List.flatMap_singleton', listedArguments]

theorem argumentTexts_wrapper (hwrapper : wrapper.base = "arguments")
    (hrun : ∀ n ∈ run, n.isNamed "arguments" = false) :
    argumentTexts (.element wrapper given run) = run.flatMap argumentTexts := by
  rw [← Keyword.argumentsOf_eq, argumentsOf_of_direct hrun, argumentTexts_element, hwrapper]
  rfl

theorem child?_status_wrapped (hwrapper : wrapper.base = "arguments")
    (hrun : ∀ n ∈ run, n.isNamed "status" = false) :
    child? "status" (.element name attributes (before ++ .element wrapper given run :: after)) =
      child? "status" (.element name attributes (before ++ run ++ after)) := by
  have hwrapped : isNamed "status" (.element wrapper given run) = false := by
    rw [isNamed_element, hwrapper]
    rfl
  have hnone : run.find? (·.isNamed "status") = none :=
    List.find?_eq_none.mpr fun n hn => Bool.eq_false_iff.mp (hrun n hn)
  rw [child?, child?]
  simp only [children]
  rw [List.find?_append, List.find?_cons_of_neg (Bool.eq_false_iff.mp hwrapped), List.find?_append,
    List.find?_append, hnone, Option.or_none]

theorem keywordEnds_wrapper (hwrapper : wrapper.base = "arguments") :
    keywordEnds (.element wrapper given run) = run.flatMap keywordEnds := by
  rw [keywordEnds, isNamed_element, hwrapper, RunResult.keywordElements_eq_flatMap]
  exact List.append_nil _

theorem view_wrapped (hname : name.base = "kw") (hwrapper : wrapper.base = "arguments")
    (hrun : ∀ n ∈ run, n.isNamed "status" = false ∧ n.isNamed "arguments" = false) :
    view zone (.element name attributes (before ++ .element wrapper given run :: after)) =
      view zone (.element name attributes (before ++ run ++ after)) := by
  refine view_element ?_ ?_ (Keyword.ofElement_congr ?_ ?_ ?_)
  · rw [argumentTexts_of_keyword hname, argumentTexts_of_keyword hname]
  · rw [List.flatMap_append, List.flatMap_cons, keywordEnds_wrapper hwrapper, List.flatMap_append,
      List.flatMap_append, List.append_assoc]
  · rfl
  · rw [child?_status_wrapped hwrapper fun n hn => (hrun n hn).1]
  · simp only [children]
    rw [Keyword.argumentsOf_eq, Keyword.argumentsOf_eq, List.flatMap_append, List.flatMap_cons,
      argumentTexts_wrapper hwrapper fun n hn => (hrun n hn).2, List.flatMap_append,
      List.flatMap_append, List.append_assoc]

end Xml.Node

/-- Wrapping a run of children of a keyword in a list of arguments leaves the result as it
is. The run may hold anything but a status or another list. -/
theorem RunResult.ofTree_wrapped (zone : Time.Zone) {root : Node} {a : Xml.Address} (ha : a ≠ [])
    (hkeyword : root.at? a = some (.element name attributes (before ++ run ++ after)))
    (hname : name.base = "kw") (hwrapper : wrapper.base = "arguments")
    (hrun : ∀ n ∈ run, n.isNamed "status" = false ∧ n.isNamed "arguments" = false) :
    ofTree zone (root.replaceAt a
        (.element name attributes (before ++ .element wrapper given run :: after))) =
      ofTree zone root :=
  ofTree_replaceAt ha hkeyword (Node.view_wrapped hname hwrapper hrun)

/-- The wrapped run starts with a text, holds a keyword with an argument of its own and ends
with an argument; one argument stays in front and another list stays behind the status. -/
theorem RunResult.ofTree_wrapped_nested :
    let element : String → List Node → Node := fun name => .element ⟨none, name⟩ []
    let argument : String → Node := fun content => element "arg" [.text content]
    let status : Node := .element ⟨none, "status"⟩ [⟨⟨none, "status"⟩, "PASS"⟩] []
    let run := [.text " ", element "kw" [argument "inner", status], .comment, argument "second"]
    let after := [status, element "arguments" [argument "third"]]
    let keyword := element "kw" ([argument "first"] ++ run ++ after)
    let root := element "robot" [element "suite" [keyword]]
    let wrapped := root.replaceAt [0, 0]
      (element "kw" ([argument "first"] ++ element "arguments" run :: after))
    (∀ n ∈ run, n.isNamed "status" = false ∧ n.isNamed "arguments" = false) ∧
      ofTree .utc wrapped = ofTree .utc root ∧
      (ofTree .utc wrapped).keywords.map (·.arguments) =
        [["inner"], ["first", "second", "third"]] := by
  intro element argument status run after keyword root wrapped
  have hrun : ∀ n ∈ run, n.isNamed "status" = false ∧ n.isNamed "arguments" = false := by
    simp [run, argument, element, Node.isNamed]
  have hkeyword : root.at? [0, 0] =
      some (.element ⟨none, "kw"⟩ [] ([argument "first"] ++ run ++ after)) := rfl
  have hresult : ofTree .utc (root.replaceAt [0, 0] (.element ⟨none, "kw"⟩ []
      ([argument "first"] ++ .element ⟨none, "arguments"⟩ [] run :: after))) = ofTree .utc root :=
    ofTree_wrapped .utc (List.cons_ne_nil 0 [0]) hkeyword rfl rfl hrun
  have hsame : ofTree .utc wrapped = ofTree .utc root := hresult
  refine ⟨hrun, hsame, ?_⟩
  rw [hsame]
  decide +kernel

end Storyboard
